import BoundSql.Text.Trim

/-!
Names of tables, columns and indexes in SQL text. A name is written between backticks, unless it is
an expression already: the star, or a text with a space or an opening parenthesis.
-/

namespace BoundSql.Identifier

/-- The mark on both sides of a quoted name. -/
def mark : Char := '\x60'

/-- Whether a name is an expression that is written as it stands. -/
def isExpression (name : String) : Bool :=
  name == "*" || name.toList.contains '(' || name.toList.contains ' '

/-- The written form of a name. Marks that it has at its ends already are not written twice, and
the empty name stays empty. -/
def quote (name : String) : String :=
  if name.isEmpty || isExpression name then name
  else String.singleton mark ++ Text.trimEnds (· == mark) name ++ String.singleton mark

/-- The written forms of several names, as a list in SQL text. -/
def quoteList (names : List String) : String :=
  ", ".intercalate (names.map quote)

end BoundSql.Identifier
