import BoundSql.Call
import BoundSql.Text.Cut

/-!
The log of calls: an event for each statement, and one for each call that leads to none.
-/

namespace BoundSql

/-- What is logged about a call. -/
inductive Event where
  | generated (kind : StatementKind) (table : String) (paramCount : Nat) (sql : String)
  | skipped (kind : StatementKind) (table : String) (reason : SkipReason)

namespace Event

/-- Where all events are sent. -/
def target : String := "sqlg.sql"

def level : Event → String
  | .generated _ _ _ _ => "DEBUG"
  | .skipped _ _ _ => "TRACE"

def message : Event → String
  | .generated _ _ _ _ => "generated statement"
  | .skipped _ _ _ => "statement skipped"

/-- The number of bytes of SQL text that an event shows. -/
def sqlRoom : Nat := 200

/-- The SQL text as an event shows it: cut if it is too long, with dots where it goes on. -/
def shown (sql : String) : String :=
  if sqlRoom < sql.utf8ByteSize then Text.cut sqlRoom sql ++ "..." else sql

end Event

namespace Scope

/-- Logs what came of a call. A statement without text is not worth an event. -/
def logOutcome (scope : Scope) (kind : StatementKind) :
    Except SkipReason Statement → StateM (List Event) Unit
  | .ok statement => do
      unless statement.isEmpty do
        modify (· ++ [.generated kind scope.table statement.params.length
          (Event.shown statement.sql)])
  | .error reason => modify (· ++ [.skipped kind scope.table reason])

/-- Answers a call and logs it. A missing target is an error; where else there is nothing to do, the
answer is the empty statement. -/
def perform (scope : Scope) (call : Call) : StateM (List Event) (Except CallError Statement) := do
  let outcome := scope.outcome call
  scope.logOutcome call.kind outcome
  match outcome with
  | .ok statement => pure (.ok statement)
  | .error .noTarget => pure (.error .emptyTarget)
  | .error _ => pure (.ok .empty)

end Scope

end BoundSql
