import BoundSql.Clauses.Text
import BoundSql.Statement

/-!
The statements on one table. Each kind of statement writes the clauses that are valid in it, always
in the same order, and leaves the others out.
-/

namespace BoundSql

/-- A table with the clauses of the statements on it. -/
structure Scope where
  table : String
  clauses : Clauses := {}
  deriving BEq

/-- Why a call leads to no statement. -/
inductive SkipReason where
  | noTarget : SkipReason
  | noAssignments : SkipReason
  | noColumnsOrRecords : SkipReason
  | emptyRecord : SkipReason
  deriving DecidableEq

def SkipReason.text : SkipReason → String
  | .noTarget => "no target record"
  | .noAssignments => "no assignments"
  | .noColumnsOrRecords => "no columns or records"
  | .emptyRecord => "empty record"

namespace Scope

/-- Reads columns; without any column, all of them. -/
def select (scope : Scope) (columns : List String) : Statement :=
  .ofBinding do
    let columnList := if columns.isEmpty then "*" else Identifier.quoteList columns
    let condition ← scope.clauses.writeWhere
    pure (appendClauses ("SELECT " ++ columnList ++ " FROM " ++ Identifier.quote scope.table)
      [scope.clauses.forceIndexText, condition, scope.clauses.groupByText,
        scope.clauses.orderByText, scope.clauses.limitText, scope.clauses.offsetText,
        scope.clauses.forUpdateText])

/-- Reads the columns of a record type for a record that may be missing. -/
def selectFor (scope : Scope) (columns : List String) (hasTarget : Bool) :
    Except SkipReason Statement :=
  if hasTarget then .ok (scope.select columns) else .error .noTarget

/-- Changes rows. There has to be something to assign. -/
def update (scope : Scope) (assignments : Option Assignments) : Except SkipReason Statement :=
  match assignments with
  | none => .error .noAssignments
  | some assignments =>
      if assignments.isEmpty then .error .noAssignments
      else .ok <| .ofBinding do
        let assigned ← writeSet assignments
        let condition ← scope.clauses.writeWhere
        pure (appendClauses ("UPDATE " ++ Identifier.quote scope.table)
          [assigned, condition, scope.clauses.orderByText, scope.clauses.limitText,
            scope.clauses.offsetText])

/-- Deletes rows. -/
def delete (scope : Scope) : Statement :=
  .ofBinding do
    let condition ← scope.clauses.writeWhere
    pure (appendClauses ("DELETE FROM " ++ Identifier.quote scope.table)
      [condition, scope.clauses.orderByText, scope.clauses.limitText, scope.clauses.offsetText])

/-- The beginning of every insertion: the table and its columns. -/
def insertHead (scope : Scope) (columns : List String) : String :=
  "INSERT INTO " ++ Identifier.quote scope.table ++ " (" ++ Identifier.quoteList columns ++ ")"

/-- Inserts each record as a row of values. -/
def insertRecords (scope : Scope) (columns : List String) (records : List (List Value)) :
    Statement :=
  .ofBinding do
    let rows ← records.mapM fun record => do
      pure ("(" ++ (← Binding.placeholders record) ++ ")")
    let onDuplicateKey ← scope.clauses.writeOnDuplicateKey
    pure (appendClauses (scope.insertHead columns ++ " VALUES " ++ ", ".intercalate rows)
      [onDuplicateKey])

/-- Inserts one record if the condition holds. -/
def insertIf (scope : Scope) (columns : List String) (record : List Value) : Statement :=
  .ofBinding do
    let row ← Binding.placeholders record
    let condition ← scope.clauses.writeWhere
    pure (appendClauses (scope.insertHead columns ++ " SELECT " ++ row ++ " FROM dual") [condition])

/-- Inserts all records, or with a condition the first one only. No record that is to be inserted
may be empty. -/
def insert (scope : Scope) (columns : List String) (records : List (List Value)) :
    Except SkipReason Statement :=
  match records with
  | [] => .error .noColumnsOrRecords
  | first :: _ =>
      if columns.isEmpty then .error .noColumnsOrRecords
      else if scope.clauses.hasWhere then
        if first.isEmpty then .error .emptyRecord else .ok (scope.insertIf columns first)
      else if records.any List.isEmpty then .error .emptyRecord
      else .ok (scope.insertRecords columns records)

end Scope

end BoundSql
