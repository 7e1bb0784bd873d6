import BoundSql.Proofs.Statement.Spelling

/-!
Whether there is a condition is decided on the tree, and apart from that the tree is written. Both
agree: a formula is empty just when it has no text, and then nothing is bound either. So a statement
has the word WHERE in it just when there is a condition, and a text follows the word.
-/

namespace BoundSql

namespace Formula

/-- A formula without a test has not even its connective in the text. -/
theorem fragment_eq_empty_iff (formula : Formula) :
    formula.fragment Value.mark = "" ↔ formula.isEmpty = true := by
  rw [isEmpty_eq_isEmpty_leaves]
  by_cases hleaves : formula.leaves = []
  · simp [fragment_of_leaves_eq_nil _ hleaves, hleaves]
  · simp [fragment_of_leaves_ne_nil _ hleaves, hleaves]

theorem operands_of_isEmpty {formula : Formula} (h : formula.isEmpty = true) :
    formula.operands = [] := by
  apply operands_of_leaves_eq_nil
  rw [isEmpty_eq_isEmpty_leaves] at h
  exact List.isEmpty_iff.mp h

theorem text_eq_empty_iff (formula : Formula) (bound : List Value) :
    (formula.write.run bound).1 = "" ↔ formula.isEmpty = true := by
  rw [run_write]
  exact formula.fragment_eq_empty_iff

/-- An empty formula leaves no trace, neither in the text nor among the values. -/
theorem isEmpty_iff_run_write_eq (formula : Formula) (bound : List Value) :
    formula.isEmpty = true ↔ formula.write.run bound = ("", bound) := by
  constructor
  · intro h
    rw [run_write, formula.fragment_eq_empty_iff.mpr h, operands_of_isEmpty h, List.append_nil]
  · intro h
    apply (formula.text_eq_empty_iff bound).mp
    rw [h]

end Formula

namespace Filter

theorem spelled_eq_empty_iff (filter : Filter) :
    filter.spelled Value.mark = "" ↔ filter.isEmpty = true := by
  rw [← String.isEmpty_iff, filter.isEmpty_spelled_mark, filter.isEmpty_eq_isEmpty_leaves]

theorem operands_of_isEmpty {filter : Filter} (h : filter.isEmpty = true) :
    filter.operands = [] := by
  rw [isEmpty_eq_isEmpty_leaves, leaves, List.isEmpty_iff] at h
  rw [operands, Formula.memberOperands, h, List.flatMap_nil]

theorem text_eq_empty_iff (filter : Filter) (bound : List Value) :
    (filter.write.run bound).1 = "" ↔ filter.isEmpty = true := by
  rw [run_write]
  exact filter.spelled_eq_empty_iff

theorem isEmpty_iff_run_write_eq (filter : Filter) (bound : List Value) :
    filter.isEmpty = true ↔ filter.write.run bound = ("", bound) := by
  constructor
  · intro h
    rw [run_write, filter.spelled_eq_empty_iff.mpr h, operands_of_isEmpty h, List.append_nil]
  · intro h
    apply (filter.text_eq_empty_iff bound).mp
    rw [h]

end Filter

namespace Clauses

theorem hasWhere_eq (clauses : Clauses) :
    clauses.hasWhere = !clauses.filter.leaves.isEmpty := by
  rw [hasWhere, Filter.isEmpty_eq_isEmpty_leaves]

/-- There is a condition just when it has a text. -/
theorem hasWhere_iff_condition_ne_empty (clauses : Clauses) (bound : List Value) :
    clauses.hasWhere = true ↔ (clauses.filter.write.run bound).1 ≠ "" := by
  rw [ne_eq, Filter.text_eq_empty_iff, hasWhere]
  simp

/-- The clause is the text of the condition behind its word, or nothing. -/
theorem spelledWhere_eq (clauses : Clauses) :
    clauses.spelledWhere Value.mark =
      if clauses.hasWhere then "WHERE " ++ (clauses.filter.write.run []).1 else "" := by
  rw [spelledWhere, hasWhere_eq, Filter.run_write]
  cases clauses.filter.leaves.isEmpty <;> rfl

theorem hasWhere_iff_where_ne_empty (clauses : Clauses) (bound : List Value) :
    clauses.hasWhere = true ↔ (clauses.writeWhere.run bound).1 ≠ "" := by
  rw [run_writeWhere, spelledWhere_eq]
  cases clauses.hasWhere <;> simp

/-- What a statement has of its condition, with the space in front. -/
def conditionPart (clauses : Clauses) : String :=
  if clauses.hasWhere then " WHERE " ++ (clauses.filter.write.run []).1 else ""

/-- The condition stands between the other clauses, which do not change with it. -/
theorem spacedClauses_around_where (clauses : Clauses) (front back : List String) :
    spacedClauses (front ++ clauses.spelledWhere Value.mark :: back) =
      spacedClauses front ++ clauses.conditionPart ++ spacedClauses back := by
  rw [spacedClauses_append, spacedClauses, spelledWhere_eq, conditionPart, String.append_assoc]
  cases clauses.hasWhere with
  | false => rfl
  | true => simp [← String.append_assoc]

end Clauses

namespace Scope

/-- The text of a task in front of its condition. A task without one is all in front. -/
def beforeCondition (scope : Scope) : Task → String
  | .nothing => ""
  | .select columns =>
      appendClauses
        ("SELECT " ++ (if columns.isEmpty then "*" else Identifier.quoteList columns) ++ " FROM " ++
          Identifier.quote scope.table)
        [scope.clauses.forceIndexText]
  | .update assignments =>
      appendClauses ("UPDATE " ++ Identifier.quote scope.table)
        ["SET " ++ spelledAssignments Value.mark assignments]
  | .delete => "DELETE FROM " ++ Identifier.quote scope.table
  | .insertRecords columns records =>
      appendClauses
        (scope.insertHead columns ++ " VALUES " ++
          ", ".intercalate (records.map (spelledRow Value.mark)))
        [scope.clauses.spelledOnDuplicateKey Value.mark]
  | .insertIf columns record =>
      scope.insertHead columns ++ " SELECT " ++ ",".intercalate (record.map Value.mark) ++
        " FROM dual"

/-- The text of a task behind its condition. -/
def afterCondition (scope : Scope) : Task → String
  | .select _ =>
      spacedClauses [scope.clauses.groupByText, scope.clauses.orderByText, scope.clauses.limitText,
        scope.clauses.offsetText, scope.clauses.forUpdateText]
  | .update _ | .delete =>
      spacedClauses [scope.clauses.orderByText, scope.clauses.limitText, scope.clauses.offsetText]
  | .nothing | .insertRecords _ _ | .insertIf _ _ => ""

/-- Records are inserted without a condition only where there is none. -/
theorem hasWhere_of_task_insertRecords {scope : Scope} {call : Call} {columns : List String}
    {records : List (List Value)} (h : scope.task call = .insertRecords columns records) :
    scope.clauses.hasWhere = false := by
  cases call with
  | select _ => cases h
  | selectRecord _ => cases h
  | selectFor _ hasTarget => cases hasTarget <;> cases h
  | update assignments =>
      cases assignments with
      | none => cases h
      | some assignments =>
          rw [task] at h
          split at h <;> cases h
  | delete => cases h
  | insert columns records =>
      cases records with
      | nil => cases h
      | cons first rest =>
          rw [task, insertTask] at h
          cases hwhere : scope.clauses.hasWhere with
          | false => rfl
          | true =>
              rw [hwhere] at h
              split at h
              · cases h
              · simp only [if_true] at h
                split at h <;> cases h

/-- The text of a task falls into what is in front of its condition, the condition, and what is
behind. -/
theorem spelled_eq_around_condition (scope : Scope) {task : Task} (hwritten : task ≠ .nothing)
    (hrecords : ∀ columns records, task = .insertRecords columns records →
      scope.clauses.hasWhere = false) :
    scope.spelled Value.mark task =
      scope.beforeCondition task ++ scope.clauses.conditionPart ++ scope.afterCondition task := by
  cases task with
  | nothing => exact absurd rfl hwritten
  | select columns =>
      have hclauses := scope.clauses.spacedClauses_around_where [scope.clauses.forceIndexText]
        [scope.clauses.groupByText, scope.clauses.orderByText, scope.clauses.limitText,
          scope.clauses.offsetText, scope.clauses.forUpdateText]
      rw [List.singleton_append] at hclauses
      rw [spelled, beforeCondition, afterCondition, appendClauses_eq, appendClauses_eq, hclauses]
      simp only [String.append_assoc]
  | update assignments =>
      have hclauses := scope.clauses.spacedClauses_around_where
        ["SET " ++ spelledAssignments Value.mark assignments]
        [scope.clauses.orderByText, scope.clauses.limitText, scope.clauses.offsetText]
      rw [List.singleton_append] at hclauses
      rw [spelled, beforeCondition, afterCondition, appendClauses_eq, appendClauses_eq, hclauses]
      simp only [String.append_assoc]
  | delete =>
      have hclauses := scope.clauses.spacedClauses_around_where []
        [scope.clauses.orderByText, scope.clauses.limitText, scope.clauses.offsetText]
      rw [List.nil_append, spacedClauses, String.empty_append] at hclauses
      rw [spelled, beforeCondition, afterCondition, appendClauses_eq, hclauses]
      simp only [String.append_assoc]
  | insertRecords columns records =>
      rw [spelled, beforeCondition, afterCondition, Clauses.conditionPart,
        hrecords columns records rfl]
      simp
  | insertIf columns record =>
      have hclauses := scope.clauses.spacedClauses_around_where [] []
      rw [List.nil_append, spacedClauses, String.empty_append] at hclauses
      rw [spelled, beforeCondition, afterCondition, appendClauses_eq, hclauses]
      simp only [String.append_assoc]

end Scope

/-- The test for emptiness and the text agree, for every formula, every condition and all clauses,
and whatever has been bound before: what is empty has no text and binds nothing, and all else has a
text. So every statement has the word WHERE between the same two texts just when there is a
condition, and the text of the condition, which is not empty, comes right after it. -/
theorem isEmpty_iff_no_text :
    (∀ (formula : Formula) (bound : List Value),
      ((formula.write.run bound).1 = "" ↔ formula.isEmpty = true) ∧
        (formula.isEmpty = true ↔ formula.write.run bound = ("", bound))) ∧
    (∀ (filter : Filter) (bound : List Value),
      ((filter.write.run bound).1 = "" ↔ filter.isEmpty = true) ∧
        (filter.isEmpty = true ↔ filter.write.run bound = ("", bound))) ∧
    (∀ (clauses : Clauses) (bound : List Value),
      (clauses.hasWhere = true ↔ (clauses.writeWhere.run bound).1 ≠ "") ∧
        (clauses.hasWhere = true ↔ (clauses.filter.write.run bound).1 ≠ "")) ∧
    ∀ (scope : Scope) (call : Call), scope.task call ≠ .nothing →
      (scope.statement call).sql =
        scope.beforeCondition (scope.task call) ++
          (if scope.clauses.hasWhere then
            " WHERE " ++ (scope.clauses.filter.write.run []).1 else "") ++
          scope.afterCondition (scope.task call) := by
  refine ⟨?_, ?_, ?_, ?_⟩
  · intro formula bound
    exact ⟨formula.text_eq_empty_iff bound, formula.isEmpty_iff_run_write_eq bound⟩
  · intro filter bound
    exact ⟨filter.text_eq_empty_iff bound, filter.isEmpty_iff_run_write_eq bound⟩
  · intro clauses bound
    exact ⟨clauses.hasWhere_iff_where_ne_empty bound,
      clauses.hasWhere_iff_condition_ne_empty bound⟩
  · intro scope call hwritten
    rw [scope.statement_eq]
    apply scope.spelled_eq_around_condition hwritten
    intro columns records htask
    exact Scope.hasWhere_of_task_insertRecords htask

/-- Empty members do not count: neither a group without a test nor a subquery without a table makes
a condition, and no second AND is left of them. -/
theorem insert_if_with_empty_members :
    let scope : Scope :=
      { table := "user"
        clauses.filter :=
          ⟨[.group .or [.group .and []], .subquery .and "" [.test .and "id" (.isNull true)] false,
            .test .or "name" (.eq (.text "tom"))]⟩ }
    let call : Call := .insert ["name"] [[.text "tom"], []]
    scope.task call ≠ .nothing ∧
      (scope.statement call).sql =
        "INSERT INTO `user` (`name`) SELECT ? FROM dual WHERE `name`=?" := by
  intro scope call
  have htask : scope.task call = .insertIf ["name"] [.text "tom"] := rfl
  have hwritten : scope.task call ≠ .nothing := by
    rw [htask]
    simp
  refine ⟨hwritten, ?_⟩
  rw [isEmpty_iff_no_text.2.2.2 scope call hwritten, htask]
  decide +kernel

end BoundSql
