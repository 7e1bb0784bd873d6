import BoundSql.Proofs.Log
import BoundSql.Proofs.Statement.Condition

/-!
The two modes of an insertion. With a condition only the first record counts, and what is to be done
for rows that are there already does not matter; without one all records are inserted, each as a row
of its own. Which records may be empty depends on the mode, and an insertion comes to nothing just
when a record that would be inserted is empty, or when there is no column or no record.
-/

namespace BoundSql

namespace Scope

/-- The reasons for which an insertion comes to nothing. -/
inductive NothingToInsert (scope : Scope) (columns : List String) (records : List (List Value)) :
    Prop where
  | noColumns (h : columns = [])
  | noRecords (h : records = [])
  | emptyFirst (hwhere : scope.clauses.hasWhere = true) (h : records.head? = some [])
  | emptyRecord (hwhere : scope.clauses.hasWhere = false) (h : [] ∈ records)

/-- The same scope with something else to be done for rows that are there already. -/
def withOnDuplicateKey (scope : Scope) (assignments : Option Assignments) : Scope :=
  { scope with clauses := { scope.clauses with onDuplicateKey := assignments } }

/-- A statement that inserts one record if the condition holds. It ends in the condition, which has
a text. -/
structure InsertsOne (scope : Scope) (columns : List String) (record : List Value)
    (statement : Statement) : Prop where
  condition_ne_empty : (scope.clauses.filter.write.run []).1 ≠ ""
  sql_eq : statement.sql =
    scope.insertHead columns ++ " SELECT " ++ ",".intercalate (List.replicate record.length "?") ++
      " FROM dual WHERE " ++ (scope.clauses.filter.write.run []).1
  params_eq : statement.params = record ++ scope.clauses.filter.operands

/-- A statement that inserts all records, each as a row with a mark for each of its values. What is
to be done for rows that are there already comes after the rows. -/
structure InsertsAll (scope : Scope) (columns : List String) (records : List (List Value))
    (statement : Statement) : Prop where
  sql_eq : statement.sql =
    appendClauses
      (scope.insertHead columns ++ " VALUES " ++ ", ".intercalate (records.map fun record =>
        "(" ++ ",".intercalate (List.replicate record.length "?") ++ ")"))
      [scope.clauses.spelledOnDuplicateKey Value.mark]
  params_eq : statement.params = records.flatten ++ scope.clauses.duplicateKeyValues

/-- A call is answered with the empty statement just when it comes down to nothing. -/
theorem statement_eq_empty_iff (scope : Scope) (call : Call) :
    scope.statement call = .empty ↔ scope.task call = .nothing := by
  rw [scope.statement_eq]
  constructor
  · intro h
    by_contra htask
    exact scope.spelled_ne_empty Value.mark htask (congrArg Statement.sql h)
  · intro htask
    rw [htask]
    rfl

/-- What an insertion comes down to, and when. -/
inductive InsertMode (scope : Scope) (columns : List String) (records : List (List Value)) :
    Task → Prop where
  | nothing (h : scope.NothingToInsert columns records) : InsertMode scope columns records .nothing
  | one (h : ¬ scope.NothingToInsert columns records) (hwhere : scope.clauses.hasWhere = true)
      {first : List Value} (hfirst : records.head? = some first) :
      InsertMode scope columns records (.insertIf columns first)
  | all (h : ¬ scope.NothingToInsert columns records) (hwhere : scope.clauses.hasWhere = false) :
      InsertMode scope columns records (.insertRecords columns records)

theorem insertMode_insertTask (scope : Scope) (columns : List String)
    (records : List (List Value)) :
    scope.InsertMode columns records (scope.insertTask columns records) := by
  cases records with
  | nil => exact .nothing (.noRecords rfl)
  | cons first rest =>
      rw [insertTask]
      by_cases hcolumns : columns = []
      · rw [if_pos (List.isEmpty_iff.mpr hcolumns)]
        exact .nothing (.noColumns hcolumns)
      rw [if_neg (mt List.isEmpty_iff.mp hcolumns)]
      cases hwhere : scope.clauses.hasWhere with
      | true =>
          rw [if_pos rfl]
          by_cases hfirst : first = []
          · rw [if_pos (List.isEmpty_iff.mpr hfirst)]
            apply InsertMode.nothing
            exact .emptyFirst hwhere (by rw [List.head?_cons, hfirst])
          rw [if_neg (mt List.isEmpty_iff.mp hfirst)]
          refine .one ?_ hwhere rfl
          rintro (hnone | hnone | ⟨_, hempty⟩ | ⟨hfalse, _⟩)
          · exact hcolumns hnone
          · cases hnone
          · exact hfirst (Option.some.inj hempty)
          · rw [hwhere] at hfalse
            cases hfalse
      | false =>
          rw [if_neg Bool.false_ne_true]
          by_cases hmem : [] ∈ first :: rest
          · rw [if_pos (by simpa using hmem)]
            exact .nothing (.emptyRecord hwhere hmem)
          rw [if_neg (by simpa using hmem)]
          refine .all ?_ hwhere
          rintro (hnone | hnone | ⟨htrue, _⟩ | ⟨_, hempty⟩)
          · exact hcolumns hnone
          · cases hnone
          · rw [hwhere] at htrue
            cases htrue
          · exact hmem hempty

/-- With a condition the later records do not count. -/
theorem insertTask_congr_head {scope : Scope} (hwhere : scope.clauses.hasWhere = true)
    (columns : List String) {records others : List (List Value)}
    (h : others.head? = records.head?) :
    scope.insertTask columns others = scope.insertTask columns records := by
  cases records with
  | nil => rw [List.head?_eq_none_iff.mp h]
  | cons first rest =>
      obtain ⟨rest', rfl⟩ := List.head?_eq_some_iff.mp h
      rw [insertTask, insertTask, if_pos hwhere, if_pos hwhere]

theorem replicate_length_eq_map_mark (record : List Value) :
    List.replicate record.length "?" = record.map Value.mark :=
  List.map_const'.symm

theorem insertsOne_insertIf {scope : Scope} (hwhere : scope.clauses.hasWhere = true)
    (columns : List String) (record : List Value) :
    scope.InsertsOne columns record
      ⟨scope.spelled Value.mark (.insertIf columns record),
        scope.operands (.insertIf columns record)⟩ := by
  have hcondition := (scope.clauses.hasWhere_iff_where_ne_empty []).mp hwhere
  rw [Clauses.run_writeWhere] at hcondition
  refine ⟨(scope.clauses.hasWhere_iff_condition_ne_empty []).mp hwhere, ?_, rfl⟩
  rw [spelled, appendClauses_eq, spacedClauses_singleton hcondition, Clauses.spelledWhere_eq,
    if_pos hwhere, replicate_length_eq_map_mark]
  have hdual : " FROM dual WHERE " = " FROM dual" ++ (" " ++ "WHERE ") := rfl
  rw [hdual]
  simp only [String.append_assoc]

theorem insertsAll_insertRecords (scope : Scope) (columns : List String)
    (records : List (List Value)) :
    scope.InsertsAll columns records
      ⟨scope.spelled Value.mark (.insertRecords columns records),
        scope.operands (.insertRecords columns records)⟩ := by
  refine ⟨?_, rfl⟩
  simp only [replicate_length_eq_map_mark]
  rfl

/-- What is to be done for rows that are there already has no place beside a condition. -/
theorem statement_withOnDuplicateKey {scope : Scope} (hwhere : scope.clauses.hasWhere = true)
    (assignments : Option Assignments) (columns : List String) (records : List (List Value)) :
    (scope.withOnDuplicateKey assignments).statement (.insert columns records) =
      scope.statement (.insert columns records) := by
  have htask : (scope.withOnDuplicateKey assignments).task (.insert columns records) =
      scope.task (.insert columns records) := rfl
  rw [statement_eq, statement_eq, htask, task]
  have hmode := scope.insertMode_insertTask columns records
  generalize scope.insertTask columns records = task at hmode ⊢
  cases hmode with
  | nothing _ => rfl
  | one _ _ _ => rfl
  | all _ hfalse =>
      rw [hwhere] at hfalse
      cases hfalse

/-- Whatever an insertion lacks, it is not a target. -/
theorem outcome_insert_ne_noTarget (scope : Scope) (columns : List String)
    (records : List (List Value)) :
    scope.outcome (.insert columns records) ≠ .error .noTarget := by
  cases records with
  | nil => rintro ⟨⟩
  | cons first rest =>
      rw [outcome, insert]
      repeat' split
      all_goals rintro ⟨⟩

/-- An insertion is always answered with a statement, even if it is the empty one. -/
theorem answer_insert (scope : Scope) (columns : List String) (records : List (List Value)) :
    scope.answer (.insert columns records) =
      .ok (scope.statement (.insert columns records)) := by
  cases houtcome : scope.outcome (.insert columns records) with
  | ok statement =>
      rw [statement_of_outcome_ok houtcome, answer, run_perform_of_outcome_ok houtcome]
  | error reason =>
      have hreason : reason ≠ .noTarget := by
        rintro rfl
        exact scope.outcome_insert_ne_noTarget columns records houtcome
      rw [statement_of_outcome_error reason houtcome, answer,
        run_perform_of_outcome_error houtcome, if_neg hreason]

end Scope

/-- An insertion is answered with the empty statement just when there is no column or no record, or
when a record that would be inserted is empty: the first one with a condition, any of them without.
With a condition, any other records behind the first and any other assignments for rows that are
there already lead to the same statement, and one that is not empty inserts the first record.
Without a condition, one that is not empty inserts all records. -/
theorem insertion_by_mode (scope : Scope) (columns : List String) (records : List (List Value)) :
    let statement := scope.statement (.insert columns records)
    scope.answer (.insert columns records) = .ok statement ∧
    (statement = .empty ↔ scope.NothingToInsert columns records) ∧
    (scope.clauses.hasWhere = true →
      (∀ others : List (List Value), others.head? = records.head? →
        scope.statement (.insert columns others) = statement) ∧
      (∀ assignments : Option Assignments,
        (scope.withOnDuplicateKey assignments).statement (.insert columns records) = statement) ∧
      (statement ≠ .empty →
        ∃ first, records.head? = some first ∧ scope.InsertsOne columns first statement)) ∧
    (scope.clauses.hasWhere = false → statement ≠ .empty →
      scope.InsertsAll columns records statement) := by
  intro statement
  have hstatement : statement = ⟨_, _⟩ := scope.statement_eq (.insert columns records)
  have hempty : statement = .empty ↔ scope.task (.insert columns records) = .nothing :=
    scope.statement_eq_empty_iff (.insert columns records)
  have hmode : scope.InsertMode columns records (scope.task (.insert columns records)) :=
    scope.insertMode_insertTask columns records
  refine ⟨scope.answer_insert columns records, ?_, ?_, ?_⟩
  · rw [hempty]
    generalize scope.task (.insert columns records) = task at hmode
    cases hmode with
    | nothing h => exact iff_of_true rfl h
    | one h => exact iff_of_false (by simp) h
    | all h => exact iff_of_false (by simp) h
  · intro hwhere
    refine ⟨?_, ?_, ?_⟩
    · intro others hothers
      have htask : scope.task (.insert columns others) = scope.task (.insert columns records) :=
        Scope.insertTask_congr_head hwhere columns hothers
      rw [hstatement, scope.statement_eq, htask]
    · intro assignments
      exact Scope.statement_withOnDuplicateKey hwhere assignments columns records
    · intro hne
      have htask := hempty.not.mp hne
      rw [hstatement]
      generalize scope.task (.insert columns records) = task at hmode htask
      cases hmode with
      | nothing _ => exact absurd rfl htask
      | one _ _ hfirst => exact ⟨_, hfirst, Scope.insertsOne_insertIf hwhere columns _⟩
      | all _ hfalse =>
          rw [hwhere] at hfalse
          cases hfalse
  · intro hwhere hne
    have htask := hempty.not.mp hne
    rw [hstatement]
    generalize scope.task (.insert columns records) = task at hmode htask
    cases hmode with
    | nothing _ => exact absurd rfl htask
    | one _ htrue _ =>
        rw [hwhere] at htrue
        cases htrue
    | all _ _ => exact scope.insertsAll_insertRecords columns records

/-- An empty record behind the first is passed over with a condition, and without one it leaves
nothing to insert; the assignments for rows that are there already count only without one. -/
theorem insertions_of_one_and_of_all :
    let again : Step := .onDuplicateKey (.ofPairs [("age", .int 5)])
    let one : Scope :=
      { table := "user"
        clauses := .ofSteps [.andNotExists "user" (.ofPairs [("name", .eq (.text "x"))]), again] }
    let all : Scope := { table := "user", clauses := .ofSteps [again] }
    (one.clauses.hasWhere = true ∧
      (one.statement (.insert ["name"] [[.text "x"], []])).sql =
        "INSERT INTO `user` (`name`) SELECT ? FROM dual " ++
          "WHERE NOT EXISTS (SELECT * FROM `user` WHERE `name`=?)") ∧
    (all.clauses.hasWhere = false ∧ all.statement (.insert ["name"] [[.text "x"], []]) = .empty) ∧
    (all.statement (.insert ["name"] [[.text "x"], [.text "y", .null]])).params =
      [.text "x", .text "y", .null, .int 5] := by
  intro again one all
  have hone : one.statement (.insert ["name"] [[.text "x"], []]) ≠ .empty := by
    rw [ne_eq, (insertion_by_mode one _ _).2.1]
    rintro (⟨⟨⟩⟩ | ⟨⟨⟩⟩ | ⟨_, ⟨⟩⟩ | ⟨⟨⟩, _⟩)
  have hall : all.statement (.insert ["name"] [[.text "x"], [.text "y", .null]]) ≠ .empty := by
    rw [ne_eq, (insertion_by_mode all _ _).2.1]
    rintro (⟨⟨⟩⟩ | ⟨⟨⟩⟩ | ⟨⟨⟩, _⟩ | ⟨_, hmem⟩)
    simp at hmem
  refine ⟨⟨rfl, ?_⟩, ⟨rfl, ?_⟩, ?_⟩
  · obtain ⟨first, hfirst, hinserts⟩ := ((insertion_by_mode one _ _).2.2.1 rfl).2.2 hone
    cases hfirst
    rw [hinserts.sql_eq]
    decide +kernel
  · exact (insertion_by_mode all _ _).2.1.mpr (.emptyRecord rfl (by simp))
  · exact ((insertion_by_mode all _ _).2.2.2 rfl hall).params_eq

end BoundSql
