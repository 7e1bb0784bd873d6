import BoundSql.Binding

/-!
Statements ready to be sent: SQL text with the values for its placeholders.
-/

namespace BoundSql

/-- What a statement does. -/
inductive StatementKind where
  | select : StatementKind
  | insert : StatementKind
  | update : StatementKind
  | delete : StatementKind
  deriving DecidableEq

def StatementKind.text : StatementKind → String
  | .select => "select"
  | .insert => "insert"
  | .update => "update"
  | .delete => "delete"

/-- SQL text and the values for its placeholders, in their order. -/
structure Statement where
  sql : String := ""
  params : List Value := []
  deriving BEq

namespace Statement

/-- A text with the values that were bound while it was written. -/
def ofBinding (written : Binding String) : Statement :=
  let (sql, params) := written.run []
  ⟨sql, params⟩

/-- The statement that does nothing. -/
def empty : Statement := {}

def isEmpty (statement : Statement) : Bool :=
  statement.sql.isEmpty

/-- The number of question marks in the text, also of those in names that are written as they
stand. -/
def placeholderCount (statement : Statement) : Nat :=
  statement.sql.toList.count '?'

/-- The statement as a JSON object. -/
def jsonText (statement : Statement) : String :=
  "\x7b\"sql\":" ++ Json.quoted statement.sql ++ ",\"params\":[" ++
    ",".intercalate (statement.params.map Value.jsonText) ++ "]\x7d"

end Statement

end BoundSql
