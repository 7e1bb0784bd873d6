/-!
The words that join a predicate to the one before it.
-/

namespace BoundSql

/-- How a predicate is joined to the one before it. -/
inductive Connective where
  | and : Connective
  | or : Connective
  /-- A connective without a meaning in SQL. -/
  | unknown : Connective
  deriving DecidableEq

instance : Inhabited Connective := ⟨.and⟩

def Connective.text : Connective → String
  | .and => "AND"
  | .or => "OR"
  | .unknown => "unknown-operator"

/-- The other of the two connectives. -/
def Connective.opposite : Connective → Connective
  | .and => .or
  | .or => .and
  | .unknown => .unknown

end BoundSql
