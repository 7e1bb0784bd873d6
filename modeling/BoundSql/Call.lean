import BoundSql.Scope

/-!
Calls as data: what can be asked of a scope, and what comes of it.
-/

namespace BoundSql

/-- What can be asked of a scope. -/
inductive Call where
  | select (columns : List String)
  /-- Selects the columns of a record type. -/
  | selectRecord (columns : List String)
  /-- Selects the columns of a record type for a record that may be missing. -/
  | selectFor (columns : List String) (hasTarget : Bool)
  | update (assignments : Option Assignments)
  | delete
  | insert (columns : List String) (records : List (List Value))

def Call.kind : Call → StatementKind
  | .select _ | .selectRecord _ | .selectFor _ _ => .select
  | .update _ => .update
  | .delete => .delete
  | .insert _ _ => .insert

/-- The only error of a call. -/
inductive CallError where
  | emptyTarget : CallError
  deriving DecidableEq

def CallError.message : CallError → String
  | .emptyTarget => "target can not be empty"

/-- The statement that a call leads to, or why there is none. -/
def Scope.outcome (scope : Scope) : Call → Except SkipReason Statement
  | .select columns => .ok (scope.select columns)
  | .selectRecord columns => .ok (scope.select columns)
  | .selectFor columns hasTarget => scope.selectFor columns hasTarget
  | .update assignments => scope.update assignments
  | .delete => .ok scope.delete
  | .insert columns records => scope.insert columns records

end BoundSql
