import BoundSql.Log
import BoundSql.Proofs.Formula.Spelling

/-!
The text of a whole statement and the values it binds, each as a function of its own. A call first
comes down to a task: one statement of a certain form, or nothing. The main statement is that every
call is answered with the text of its task, in which every value is spelled as its mark, and with
the operands of its task. All that is said later about statements rests on it.
-/

namespace BoundSql

/-- When each element writes a text of its own and appends values of its own, so does a list. -/
theorem Binding.run_mapM {α : Type} (write : α → Binding String) (text : α → String)
    (values : α → List Value)
    (hwrite : ∀ x bound, (write x).run bound = (text x, bound ++ values x))
    (xs : List α) (bound : List Value) :
    (xs.mapM write).run bound = (xs.map text, bound ++ xs.flatMap values) := by
  induction xs generalizing bound with
  | nil =>
      rw [List.flatMap_nil, List.append_nil]
      rfl
  | cons x rest ih =>
      rw [List.mapM_cons, run_bind, hwrite, run_bind, ih, List.flatMap_cons, List.append_assoc]
      rfl

/-- Assignments as they stand after SET, with their values spelled out. -/
def spelledAssignments (spell : Value → String) (assignments : Assignments) : String :=
  ", ".intercalate (assignments.entries.map fun (column, value) =>
    Identifier.quote column ++ "=" ++ spell value)

/-- The values of some assignments in order. -/
def assignedValues (assignments : Assignments) : List Value :=
  assignments.entries.map Prod.snd

/-- The row of a record, in parentheses. -/
def spelledRow (spell : Value → String) (record : List Value) : String :=
  "(" ++ ",".intercalate (record.map spell) ++ ")"

namespace Clauses

/-- The condition, unless no test is left in it. -/
def spelledWhere (spell : Value → String) (clauses : Clauses) : String :=
  if clauses.filter.leaves.isEmpty then "" else "WHERE " ++ clauses.filter.spelled spell

def spelledOnDuplicateKey (spell : Value → String) (clauses : Clauses) : String :=
  match clauses.onDuplicateKey with
  | none => ""
  | some assignments =>
      if assignments.isEmpty then ""
      else "ON DUPLICATE KEY UPDATE " ++ spelledAssignments spell assignments

def duplicateKeyValues (clauses : Clauses) : List Value :=
  match clauses.onDuplicateKey with
  | none => []
  | some assignments => assignedValues assignments

/-- The columns to sort by, which are in their written form already. -/
def sortColumns (clauses : Clauses) : List String :=
  clauses.orderBy.map SortKey.column

/-- The columns that are assigned to when a row is there already. -/
def duplicateKeyColumns (clauses : Clauses) : List String :=
  match clauses.onDuplicateKey with
  | none => []
  | some assignments => assignments.keys

end Clauses

/-- Clauses in a row, with a space before each that has a text. -/
def spacedClauses : List String → String
  | [] => ""
  | clause :: rest => (if clause.isEmpty then "" else " " ++ clause) ++ spacedClauses rest

/-- What is appended to a text does not depend on that text. -/
theorem appendClauses_eq (head : String) (clauses : List String) :
    appendClauses head clauses = head ++ spacedClauses clauses := by
  induction clauses generalizing head with
  | nil => simp [appendClauses, spacedClauses]
  | cons clause rest ih =>
      have hstep : appendClauses head (clause :: rest) =
          appendClauses (if clause.isEmpty then head else head ++ " " ++ clause) rest := rfl
      rw [hstep, ih, spacedClauses]
      split <;> simp [String.append_assoc]

theorem spacedClauses_append (front back : List String) :
    spacedClauses (front ++ back) = spacedClauses front ++ spacedClauses back := by
  induction front with
  | nil => simp [spacedClauses]
  | cons clause rest ih =>
      rw [List.cons_append, spacedClauses, spacedClauses, ih, String.append_assoc]

theorem spacedClauses_cons (clause : String) (rest : List String) :
    spacedClauses (clause :: rest) = spacedClauses [clause] ++ spacedClauses rest :=
  spacedClauses_append [clause] rest

theorem spacedClauses_singleton {clause : String} (h : clause ≠ "") :
    spacedClauses [clause] = " " ++ clause := by
  simp [spacedClauses, h]

/-- What a call comes down to: a statement of one form with its data, or nothing. -/
inductive Task where
  | nothing
  | select (columns : List String)
  | update (assignments : Assignments)
  | delete
  | insertRecords (columns : List String) (records : List (List Value))
  | insertIf (columns : List String) (record : List Value)

namespace Scope

/-- The task of an insertion. With a condition it is about the first record only. -/
def insertTask (scope : Scope) (columns : List String) : List (List Value) → Task
  | [] => .nothing
  | first :: rest =>
      if columns.isEmpty then .nothing
      else if scope.clauses.hasWhere then
        if first.isEmpty then .nothing else .insertIf columns first
      else if (first :: rest).any List.isEmpty then .nothing
      else .insertRecords columns (first :: rest)

def task (scope : Scope) : Call → Task
  | .select columns => .select columns
  | .selectRecord columns => .select columns
  | .selectFor columns hasTarget => if hasTarget then .select columns else .nothing
  | .update none => .nothing
  | .update (some assignments) => if assignments.isEmpty then .nothing else .update assignments
  | .delete => .delete
  | .insert columns records => scope.insertTask columns records

/-- The text of a task with its values spelled out where they belong. -/
def spelled (spell : Value → String) (scope : Scope) : Task → String
  | .nothing => ""
  | .select columns =>
      appendClauses
        ("SELECT " ++ (if columns.isEmpty then "*" else Identifier.quoteList columns) ++ " FROM " ++
          Identifier.quote scope.table)
        [scope.clauses.forceIndexText, scope.clauses.spelledWhere spell,
          scope.clauses.groupByText, scope.clauses.orderByText, scope.clauses.limitText,
          scope.clauses.offsetText, scope.clauses.forUpdateText]
  | .update assignments =>
      appendClauses ("UPDATE " ++ Identifier.quote scope.table)
        ["SET " ++ spelledAssignments spell assignments, scope.clauses.spelledWhere spell,
          scope.clauses.orderByText, scope.clauses.limitText, scope.clauses.offsetText]
  | .delete =>
      appendClauses ("DELETE FROM " ++ Identifier.quote scope.table)
        [scope.clauses.spelledWhere spell, scope.clauses.orderByText, scope.clauses.limitText,
          scope.clauses.offsetText]
  | .insertRecords columns records =>
      appendClauses
        (scope.insertHead columns ++ " VALUES " ++
          ", ".intercalate (records.map (spelledRow spell)))
        [scope.clauses.spelledOnDuplicateKey spell]
  | .insertIf columns record =>
      appendClauses
        (scope.insertHead columns ++ " SELECT " ++ ",".intercalate (record.map spell) ++
          " FROM dual")
        [scope.clauses.spelledWhere spell]

/-- The values that a task binds, in order. -/
def operands (scope : Scope) : Task → List Value
  | .nothing => []
  | .select _ => scope.clauses.filter.operands
  | .update assignments => assignedValues assignments ++ scope.clauses.filter.operands
  | .delete => scope.clauses.filter.operands
  | .insertRecords _ records => records.flatten ++ scope.clauses.duplicateKeyValues
  | .insertIf _ record => record ++ scope.clauses.filter.operands

/-- The names in the text of a task: those of columns, tables and indexes, each as often as it is
written and in the order of the text. -/
def names (scope : Scope) : Task → List String
  | .nothing => []
  | .select columns =>
      columns ++ scope.table :: scope.clauses.forceIndex.toList ++ scope.clauses.filter.names ++
        scope.clauses.groupBy ++ scope.clauses.sortColumns
  | .update assignments =>
      scope.table :: assignments.keys ++ scope.clauses.filter.names ++ scope.clauses.sortColumns
  | .delete => scope.table :: scope.clauses.filter.names ++ scope.clauses.sortColumns
  | .insertRecords columns _ => scope.table :: columns ++ scope.clauses.duplicateKeyColumns
  | .insertIf columns _ => scope.table :: columns ++ scope.clauses.filter.names

/-- The statement that a call is answered with. The only call that has no statement for an answer,
one without its target, counts as answered with the empty one. -/
def statement (scope : Scope) (call : Call) : Statement :=
  match ((scope.perform call).run []).1 with
  | .ok statement => statement
  | .error _ => .empty

end Scope

/-- Assignments are written with a mark for each value and bind their values in the order of the
columns. -/
theorem run_writeAssignments (assignments : Assignments) (bound : List Value) :
    (writeAssignments assignments).run bound =
      (spelledAssignments Value.mark assignments, bound ++ assignedValues assignments) := by
  have hentries := Binding.run_mapM
    (fun (entry : String × Value) => do
      pure (Identifier.quote entry.1 ++ "=" ++ (← Binding.placeholder entry.2)))
    (fun entry => Identifier.quote entry.1 ++ "=" ++ Value.mark entry.2)
    (fun entry => [entry.2]) (fun _ _ => rfl) assignments.entries bound
  have hvalues : assignments.entries.flatMap (fun entry => [entry.2]) =
      assignedValues assignments := List.map_eq_flatMap.symm
  rw [hvalues] at hentries
  rw [writeAssignments, run_bind]
  exact congrArg (fun (result : List String × List Value) =>
    (", ".intercalate result.1, result.2)) hentries

theorem run_writeSet {assignments : Assignments} (hne : assignments.isEmpty = false)
    (bound : List Value) :
    (writeSet assignments).run bound =
      ("SET " ++ spelledAssignments Value.mark assignments,
        bound ++ assignedValues assignments) := by
  rw [writeSet, if_neg (by simp [hne]), run_bind, run_writeAssignments]
  rfl

namespace Clauses

/-- A condition binds its operands. It is written as a clause exactly when a test is left in it. -/
theorem run_writeWhere (clauses : Clauses) (bound : List Value) :
    clauses.writeWhere.run bound =
      (clauses.spelledWhere Value.mark, bound ++ clauses.filter.operands) := by
  rw [writeWhere, run_bind, clauses.filter.run_write, spelledWhere,
    ← clauses.filter.isEmpty_spelled_mark]
  rfl

/-- Assignments for rows that are there already are written like those of an update, behind their
own keyword. -/
theorem run_writeOnDuplicateKey (clauses : Clauses) (bound : List Value) :
    clauses.writeOnDuplicateKey.run bound =
      (clauses.spelledOnDuplicateKey Value.mark, bound ++ clauses.duplicateKeyValues) := by
  rw [writeOnDuplicateKey, spelledOnDuplicateKey, duplicateKeyValues]
  match clauses.onDuplicateKey with
  | none => rw [List.append_nil]; rfl
  | some assignments =>
      change (if assignments.isEmpty then pure "" else do
        pure ("ON DUPLICATE KEY UPDATE " ++ (← writeAssignments assignments)) :
          Binding String).run bound = _
      cases hempty : assignments.isEmpty with
      | true =>
          have hvalues : assignedValues assignments = [] := by
            rw [assignedValues, List.isEmpty_iff.mp hempty, List.map_nil]
          simp only [hempty, hvalues, List.append_nil]
          rfl
      | false =>
          rw [if_neg Bool.false_ne_true, run_bind, run_writeAssignments]
          simp only [hempty]
          rfl

end Clauses

/-- The row of marks of a record. -/
private theorem run_row (record bound : List Value) :
    (do pure ("(" ++ (← Binding.placeholders record) ++ ")") : Binding String).run bound =
      (spelledRow Value.mark record, bound ++ record) := by
  rw [run_bind, Binding.run_placeholders_mark]
  rfl

namespace Scope

/-- A selection has the text of its task and binds the operands of its condition. -/
theorem select_eq (scope : Scope) (columns : List String) :
    scope.select columns =
      ⟨scope.spelled Value.mark (.select columns), scope.operands (.select columns)⟩ := by
  rw [select, Statement.ofBinding, run_bind, scope.clauses.run_writeWhere]
  rfl

theorem delete_eq (scope : Scope) :
    scope.delete = ⟨scope.spelled Value.mark .delete, scope.operands .delete⟩ := by
  rw [delete, Statement.ofBinding, run_bind, scope.clauses.run_writeWhere]
  rfl

/-- An update binds the values that it assigns before the operands of its condition. -/
theorem update_eq (scope : Scope) {assignments : Assignments}
    (hne : assignments.isEmpty = false) :
    scope.update (some assignments) =
      .ok ⟨scope.spelled Value.mark (.update assignments),
        scope.operands (.update assignments)⟩ := by
  simp only [update, hne, Statement.ofBinding, run_bind, run_writeSet hne,
    scope.clauses.run_writeWhere]
  rfl

/-- An insertion without a condition binds its records row by row, then the assignments for rows
that are there already. -/
theorem insertRecords_eq (scope : Scope) (columns : List String) (records : List (List Value)) :
    scope.insertRecords columns records =
      ⟨scope.spelled Value.mark (.insertRecords columns records),
        scope.operands (.insertRecords columns records)⟩ := by
  have hrows := Binding.run_mapM _ (spelledRow Value.mark) id run_row records []
  rw [insertRecords, Statement.ofBinding, run_bind, hrows, run_bind,
    scope.clauses.run_writeOnDuplicateKey, List.flatMap_id]
  rfl

theorem insertIf_eq (scope : Scope) (columns : List String) (record : List Value) :
    scope.insertIf columns record =
      ⟨scope.spelled Value.mark (.insertIf columns record),
        scope.operands (.insertIf columns record)⟩ := by
  rw [insertIf, Statement.ofBinding, run_bind, Binding.run_placeholders_mark,
    run_bind, scope.clauses.run_writeWhere]
  rfl

theorem statement_of_outcome_ok {scope : Scope} {call : Call} {statement : Statement}
    (h : scope.outcome call = .ok statement) : scope.statement call = statement := by
  rw [Scope.statement, perform, h]
  rfl

/-- A call that is skipped is answered with the empty statement, whatever the reason. -/
theorem statement_of_outcome_error {scope : Scope} {call : Call} (reason : SkipReason)
    (h : scope.outcome call = .error reason) : scope.statement call = .empty := by
  rw [Scope.statement, perform, h]
  cases reason <;> rfl

/-- An insertion checks its columns and records before it is written, with a condition the first
record only. -/
private theorem statement_insert (scope : Scope) (columns : List String)
    (records : List (List Value)) :
    scope.statement (.insert columns records) =
      ⟨scope.spelled Value.mark (scope.insertTask columns records),
        scope.operands (scope.insertTask columns records)⟩ := by
  cases records with
  | nil => exact statement_of_outcome_error .noColumnsOrRecords rfl
  | cons first rest =>
      by_cases hcolumns : columns.isEmpty
      · rw [insertTask, if_pos hcolumns]
        exact statement_of_outcome_error .noColumnsOrRecords
          (by rw [outcome, insert, if_pos hcolumns])
      rw [insertTask, if_neg hcolumns]
      by_cases hwhere : scope.clauses.hasWhere
      · rw [if_pos hwhere]
        by_cases hfirst : first.isEmpty
        · rw [if_pos hfirst]
          exact statement_of_outcome_error .emptyRecord
            (by rw [outcome, insert, if_neg hcolumns, if_pos hwhere, if_pos hfirst])
        · rw [if_neg hfirst, ← insertIf_eq]
          exact statement_of_outcome_ok
            (by rw [outcome, insert, if_neg hcolumns, if_pos hwhere, if_neg hfirst])
      · rw [if_neg hwhere]
        by_cases hany : (first :: rest).any List.isEmpty
        · rw [if_pos hany]
          exact statement_of_outcome_error .emptyRecord
            (by rw [outcome, insert, if_neg hcolumns, if_neg hwhere, if_pos hany])
        · rw [if_neg hany, ← insertRecords_eq]
          exact statement_of_outcome_ok
            (by rw [outcome, insert, if_neg hcolumns, if_neg hwhere, if_neg hany])

theorem task_update (scope : Scope) {assignments : Assignments}
    (hne : assignments.isEmpty = false) :
    scope.task (.update (some assignments)) = .update assignments := by
  rw [task, if_neg (by simp [hne])]

/-- Every call is answered with the text of its task, each value spelled as its mark, and with the
operands of its task. -/
theorem statement_eq (scope : Scope) (call : Call) :
    scope.statement call =
      ⟨scope.spelled Value.mark (scope.task call), scope.operands (scope.task call)⟩ := by
  cases call with
  | select columns => exact (statement_of_outcome_ok rfl).trans (scope.select_eq columns)
  | selectRecord columns => exact (statement_of_outcome_ok rfl).trans (scope.select_eq columns)
  | selectFor columns hasTarget =>
      cases hasTarget with
      | true => exact (statement_of_outcome_ok rfl).trans (scope.select_eq columns)
      | false => exact statement_of_outcome_error .noTarget rfl
  | update assignments =>
      cases assignments with
      | none => exact statement_of_outcome_error .noAssignments rfl
      | some assignments =>
          cases hempty : assignments.isEmpty with
          | true =>
              rw [task, if_pos hempty]
              exact statement_of_outcome_error .noAssignments
                (by simp only [outcome, update, hempty, if_true])
          | false =>
              rw [scope.task_update hempty]
              exact statement_of_outcome_ok (scope.update_eq hempty)
  | delete => exact (statement_of_outcome_ok rfl).trans scope.delete_eq
  | insert columns records => exact scope.statement_insert columns records

end Scope

end BoundSql
