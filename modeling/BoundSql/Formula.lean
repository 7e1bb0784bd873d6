import BoundSql.Binding
import BoundSql.Connective
import BoundSql.Identifier
import BoundSql.Predicate

/-!
Trees of predicates. Each node carries the connective that joins it to the node before it, and its
text starts with that connective; where a node comes first, the connective is taken off again. A
node without any predicate in it is empty and leaves no trace in the text.
-/

namespace BoundSql

/-- A predicate tree. -/
inductive Formula where
  /-- A predicate on a column. -/
  | test (connective : Connective) (column : String) (predicate : Predicate)
  /-- Several formulas that stand as one. -/
  | group (connective : Connective) (members : List Formula)
  /-- Whether a table has a row that fulfils some formulas. -/
  | subquery (connective : Connective) (table : String) (members : List Formula) (negated : Bool)

/-- Names the column of a predicate. -/
def Predicate.on (predicate : Predicate) (connective : Connective) (column : String) : Formula :=
  .test connective column predicate

/-- What is written in front of a negated test. -/
def negation (negated : Bool) : String :=
  if negated then "NOT " else ""

/-- The text of a predicate on a column. A pattern is bound as a text value. -/
def Predicate.write (column : String) : Predicate → Binding String
  | .compare symbol value => do
      pure (Identifier.quote column ++ symbol ++ (← Binding.placeholder value))
  | .between lower upper negated => do
      let least ← Binding.placeholder lower
      let greatest ← Binding.placeholder upper
      pure (Identifier.quote column ++ " " ++ negation negated ++ "BETWEEN " ++ least ++ " AND " ++
        greatest)
  | .inList values negated => do
      pure (Identifier.quote column ++ " " ++ negation negated ++ "IN (" ++
        (← Binding.placeholders values) ++ ")")
  | .like value wildcard negated => do
      pure (Identifier.quote column ++ " " ++ negation negated ++ "LIKE " ++
        (← Binding.placeholder (.text (wildcard.pattern value))))
  | .isNull negated => pure (Identifier.quote column ++ " IS " ++ negation negated ++ "NULL")

/-- Texts one after the other, without the connective of the first. -/
def joinMembers (texts : List String) : String :=
  Text.dropFirstWord (" ".intercalate texts)

namespace Formula

def connective : Formula → Connective
  | .test connective _ _ => connective
  | .group connective _ => connective
  | .subquery connective _ _ _ => connective

mutual

/-- Whether a formula has no predicate in it. A subquery needs a table, too. -/
def isEmpty : Formula → Bool
  | .test _ _ _ => false
  | .group _ members => allEmpty members
  | .subquery _ table members _ => table.isEmpty || allEmpty members

def allEmpty : List Formula → Bool
  | [] => true
  | formula :: rest => formula.isEmpty && allEmpty rest

end

mutual

/-- The text of a formula after its connective, or nothing for an empty one. A group of several
members stands in parentheses, a group of one does not. -/
def write : Formula → Binding String
  | .test connective column predicate => do
      pure (connective.text ++ " " ++ (← predicate.write column))
  | .group connective members => do
      match ← writeMembers members with
      | [] => pure ""
      | [only] => pure (connective.text ++ " " ++ Text.dropFirstWord only)
      | texts => pure (connective.text ++ " (" ++ joinMembers texts ++ ")")
  | .subquery connective table members negated => do
      if table.isEmpty then pure ""
      else
        match ← writeMembers members with
        | [] => pure ""
        | texts =>
            pure (connective.text ++ " " ++ negation negated ++ "EXISTS (SELECT * FROM " ++
              Identifier.quote table ++ " WHERE " ++ joinMembers texts ++ ")")

/-- The texts of formulas in order, without those that are empty. -/
def writeMembers : List Formula → Binding (List String)
  | [] => pure []
  | formula :: rest => do
      let text ← formula.write
      let texts ← writeMembers rest
      pure (if text.isEmpty then texts else text :: texts)

end

mutual

/-- Equality of formulas; their values are compared by the equality of values. -/
def equal : Formula → Formula → Bool
  | .test c column p, .test d column' q => c == d && column == column' && p == q
  | .group c members, .group d members' => c == d && equalMembers members members'
  | .subquery c table members negated, .subquery d table' members' negated' =>
      c == d && table == table' && equalMembers members members' && negated == negated'
  | _, _ => false

def equalMembers : List Formula → List Formula → Bool
  | [], [] => true
  | a :: as, b :: bs => equal a b && equalMembers as bs
  | _, _ => false

end

instance : BEq Formula := ⟨equal⟩

theorem allEmpty_eq_all (formulas : List Formula) : allEmpty formulas = formulas.all isEmpty := by
  induction formulas with
  | nil => rfl
  | cons formula rest ih => rw [allEmpty, ih, List.all_cons]

end Formula

end BoundSql
