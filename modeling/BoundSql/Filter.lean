import BoundSql.Formula

/-!
The condition of a statement: formulas one after the other.
-/

namespace BoundSql

/-- The formulas of a condition, in the order in which they are written. -/
structure Filter where
  members : List Formula := []
  deriving BEq

namespace Filter

def append (filter : Filter) (formula : Formula) : Filter :=
  ⟨filter.members ++ [formula]⟩

/-- The number of formulas, empty ones included. -/
def size (filter : Filter) : Nat :=
  filter.members.length

/-- Whether there is nothing to test. -/
def isEmpty (filter : Filter) : Bool :=
  Formula.allEmpty filter.members

/-- The text of a condition. The connective of its first formula is not written. -/
def write (filter : Filter) : Binding String := do
  match ← Formula.writeMembers filter.members with
  | [] => pure ""
  | texts => pure (joinMembers texts)

@[simp]
theorem members_append (filter : Filter) (formula : Formula) :
    (filter.append formula).members = filter.members ++ [formula] := rfl

end Filter

end BoundSql
