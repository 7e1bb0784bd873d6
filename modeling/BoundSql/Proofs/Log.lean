import BoundSql.Proofs.Statement.Spelling
import BoundSql.Proofs.Text.Cut

/-!
The log of a session. Every call leaves one event behind, whatever has been logged before, so that a
sequence of calls leaves one event a call, in their order. From an event it can be told what the
call was answered with: a statement with a text, or nothing at all. There is no third answer,
because no call has a statement that lacks a text but has parameters.

Of a long text an event shows only so much as there is room for, and never a part of a character.
-/

namespace BoundSql

/-- What a call is answered with, whatever has been logged. -/
def Scope.answer (scope : Scope) (call : Call) : Except CallError Statement :=
  ((scope.perform call).run []).1

/-- An event that tells what a call was answered with. -/
structure Event.Reports (event : Event) (scope : Scope) (call : Call)
    (answer : Except CallError Statement) : Prop where
  generated_iff : (event.level = "DEBUG" ∧ event.message = "generated statement") ↔
    ∃ statement, answer = .ok statement ∧ statement.sql ≠ ""
  skipped_iff : (event.level = "TRACE" ∧ event.message = "statement skipped") ↔
    answer = .ok .empty ∨ answer = .error .emptyTarget
  contents : ∀ statement, answer = .ok statement → statement.sql ≠ "" →
    event = .generated call.kind scope.table statement.params.length (Event.shown statement.sql)
  skipped_contents : answer = .ok .empty ∨ answer = .error .emptyTarget →
    ∃ reason, event = .skipped call.kind scope.table reason

namespace Scope

theorem appendClauses_ne_empty {head : String} (hhead : head ≠ "") (clauses : List String) :
    appendClauses head clauses ≠ "" := by
  rw [appendClauses_eq]
  simp [hhead]

theorem spelled_ne_empty (spell : Value → String) (scope : Scope) {task : Task}
    (htask : task ≠ .nothing) : scope.spelled spell task ≠ "" := by
  cases task with
  | nothing => exact absurd rfl htask
  | select columns => exact appendClauses_ne_empty (by simp) _
  | update assignments => exact appendClauses_ne_empty (by simp) _
  | delete => exact appendClauses_ne_empty (by simp) _
  | insertRecords columns records => exact appendClauses_ne_empty (by simp) _
  | insertIf columns record => exact appendClauses_ne_empty (by simp) _

/-- Where there is a statement, there is something to do. -/
theorem task_ne_nothing_of_outcome_ok {scope : Scope} {call : Call} {statement : Statement}
    (h : scope.outcome call = .ok statement) : scope.task call ≠ .nothing := by
  cases call with
  | select columns => rintro ⟨⟩
  | selectRecord columns => rintro ⟨⟩
  | selectFor columns hasTarget =>
      cases hasTarget with
      | true => rintro ⟨⟩
      | false => cases h
  | update assignments =>
      cases assignments with
      | none => cases h
      | some assignments =>
          cases hempty : assignments.isEmpty with
          | true => simp [outcome, update, hempty] at h
          | false => simp [scope.task_update hempty]
  | delete => rintro ⟨⟩
  | insert columns records =>
      cases records with
      | nil => cases h
      | cons first rest =>
          rw [outcome, insert] at h
          rw [task, insertTask]
          by_cases hcolumns : columns.isEmpty
          · rw [if_pos hcolumns] at h
            cases h
          rw [if_neg hcolumns] at h ⊢
          by_cases hwhere : scope.clauses.hasWhere
          · rw [if_pos hwhere] at h ⊢
            by_cases hfirst : first.isEmpty
            · rw [if_pos hfirst] at h
              cases h
            · simp [hfirst]
          · rw [if_neg hwhere] at h ⊢
            by_cases hany : (first :: rest).any List.isEmpty
            · rw [if_pos hany] at h
              cases h
            · rw [if_neg hany]
              rintro ⟨⟩

theorem sql_ne_empty_of_outcome_ok {scope : Scope} {call : Call} {statement : Statement}
    (h : scope.outcome call = .ok statement) : statement.sql ≠ "" := by
  rw [← statement_of_outcome_ok h, statement_eq]
  exact scope.spelled_ne_empty Value.mark (task_ne_nothing_of_outcome_ok h)

theorem run_perform_of_outcome_ok {scope : Scope} {call : Call} {statement : Statement}
    (h : scope.outcome call = .ok statement) (logged : List Event) :
    (scope.perform call).run logged =
      (.ok statement, logged ++ [.generated call.kind scope.table statement.params.length
        (Event.shown statement.sql)]) := by
  have htext : statement.isEmpty = false := by
    simpa [Statement.isEmpty] using sql_ne_empty_of_outcome_ok h
  rw [perform, h]
  simp only [logOutcome, htext]
  rfl

theorem run_perform_of_outcome_error {scope : Scope} {call : Call} {reason : SkipReason}
    (h : scope.outcome call = .error reason) (logged : List Event) :
    (scope.perform call).run logged =
      (if reason = .noTarget then .error .emptyTarget else .ok .empty,
        logged ++ [.skipped call.kind scope.table reason]) := by
  rw [perform, h]
  cases reason <;> rfl

end Scope

/-- A statement with a text is told by its event. -/
theorem Event.reports_generated {scope : Scope} {call : Call} {statement : Statement}
    (htext : statement.sql ≠ "") :
    Event.Reports (.generated call.kind scope.table statement.params.length
      (Event.shown statement.sql)) scope call (.ok statement) := by
  have hempty : statement ≠ .empty := by
    rintro rfl
    exact htext rfl
  refine ⟨?_, ?_, ?_, ?_⟩
  · exact iff_of_true ⟨rfl, rfl⟩ ⟨statement, rfl, htext⟩
  · refine iff_of_false (by simp [level]) ?_
    simpa using hempty
  · rintro other ⟨⟩ _
    rfl
  · intro hnone
    exact absurd hnone (by simpa using hempty)

/-- So is the lack of one. -/
theorem Event.reports_skipped {scope : Scope} {call : Call} (reason : SkipReason)
    {answer : Except CallError Statement}
    (hnone : answer = .ok .empty ∨ answer = .error .emptyTarget) :
    Event.Reports (.skipped call.kind scope.table reason) scope call answer := by
  have htext : ¬ ∃ statement, answer = .ok statement ∧ statement.sql ≠ "" := by
    rintro ⟨statement, hanswer, htext⟩
    rcases hnone with hempty | herror
    · rw [hanswer] at hempty
      cases hempty
      exact htext rfl
    · rw [hanswer] at herror
      cases herror
  refine ⟨?_, ?_, ?_, ?_⟩
  · exact iff_of_false (by simp [level]) htext
  · exact iff_of_true ⟨rfl, rfl⟩ hnone
  · intro statement hanswer hne
    exact absurd ⟨statement, hanswer, hne⟩ htext
  · intro _
    exact ⟨reason, rfl⟩

/-- A call leaves one event, which reports its answer, and the answer does not hang on the log. -/
theorem Scope.run_perform (scope : Scope) (call : Call) :
    ∃ event, event.Reports scope call (scope.answer call) ∧ ∀ logged,
      (scope.perform call).run logged = (scope.answer call, logged ++ [event]) := by
  cases houtcome : scope.outcome call with
  | ok statement =>
      have hrun := run_perform_of_outcome_ok houtcome
      have hanswer : scope.answer call = .ok statement := by rw [answer, hrun]
      rw [hanswer]
      exact ⟨_, Event.reports_generated (sql_ne_empty_of_outcome_ok houtcome), hrun⟩
  | error reason =>
      have hrun := run_perform_of_outcome_error houtcome
      have hanswer : scope.answer call =
          if reason = .noTarget then .error .emptyTarget else .ok .empty := by rw [answer, hrun]
      rw [hanswer]
      refine ⟨_, Event.reports_skipped reason ?_, hrun⟩
      split
      · exact Or.inr rfl
      · exact Or.inl rfl

/-- A sequence of calls leaves exactly one event a call, in their order, and each reports what its
call was answered with. A generated statement is one with a text; where a statement is skipped, the
answer is the empty statement, without parameters, or the error about a missing target. -/
theorem one_event_per_call (scope : Scope) (calls : List Call) (logged : List Event) :
    ∃ events : List Event,
      (calls.mapM scope.perform).run logged = (calls.map scope.answer, logged ++ events) ∧
        List.Forall₂ (fun call event => event.Reports scope call (scope.answer call))
          calls events := by
  induction calls generalizing logged with
  | nil => exact ⟨[], by rw [List.append_nil]; rfl, .nil⟩
  | cons call rest ih =>
      obtain ⟨event, hreports, hrun⟩ := scope.run_perform call
      obtain ⟨events, hrest, hall⟩ := ih (logged ++ [event])
      refine ⟨event :: events, ?_, .cons hreports hall⟩
      rw [List.mapM_cons, run_bind, hrun, run_bind, hrest, List.append_assoc]
      rfl

theorem Event.shown_of_fits {sql : String} (h : sql.utf8ByteSize ≤ 200) : shown sql = sql :=
  if_neg (Nat.not_lt_of_le h)

theorem Event.shown_of_long {sql : String} (h : 200 < sql.utf8ByteSize) :
    shown sql = Text.cut 200 sql ++ "..." :=
  if_pos h

/-- Cutting a text gives the longest beginning that is made of whole characters and has room, and
the search from behind finds the same: it goes back three bytes at most, and where it ends the text
may be cut. So an event shows a text whole if it has at most 200 bytes, and else the longest
beginning that fits into 200 bytes, of which at most three stay empty, and three dots. Never are
more than 203 bytes shown. -/
theorem shown_text_is_longest_front (room : Nat) (sql : String) :
    Text.IsLongestFront room sql (Text.cut room sql) ∧
      Text.cutFromBehind? room sql = some (Text.cut room sql) ∧
      (room < sql.utf8ByteSize → Text.lastBoundary sql room ≤ room ∧
        room ≤ Text.lastBoundary sql room + 3) ∧
      (sql.utf8ByteSize ≤ 200 → Event.shown sql = sql) ∧
      (200 < sql.utf8ByteSize → ∃ kept, Event.shown sql = kept ++ "..." ∧
        Text.IsLongestFront 200 sql kept ∧ 197 ≤ kept.utf8ByteSize ∧ kept.utf8ByteSize ≤ 200) ∧
      (Event.shown sql).utf8ByteSize ≤ 203 := by
  have hkept : 200 < sql.utf8ByteSize → ∃ kept, Event.shown sql = kept ++ "..." ∧
      Text.IsLongestFront 200 sql kept ∧ 197 ≤ kept.utf8ByteSize ∧ kept.utf8ByteSize ≤ 200 := by
    intro hlong
    have hfront := Text.cut_isLongestFront 200 sql
    have hroom := Text.room_le_utf8ByteSize_cut hlong
    exact ⟨Text.cut 200 sql, Event.shown_of_long hlong, hfront, by omega, hfront.fits⟩
  refine ⟨Text.cut_isLongestFront room sql, Text.cutFromBehind?_eq room sql, ?_,
    Event.shown_of_fits, hkept, ?_⟩
  · intro hlong
    refine ⟨Text.lastBoundary_le sql room, ?_⟩
    rw [Text.lastBoundary_eq]
    exact Text.room_le_utf8ByteSize_cut hlong
  · rcases Nat.lt_or_ge 200 sql.utf8ByteSize with hlong | hfits
    · obtain ⟨kept, hshown, _, _, hle⟩ := hkept hlong
      have hdots : "...".utf8ByteSize = 3 := by decide
      rw [hshown, String.utf8ByteSize_append, hdots]
      omega
    · rw [Event.shown_of_fits hfits]
      omega

/-- A character of four bytes for which three are left. -/
theorem shown_text_before_wide_character :
    let sql := String.ofList (List.replicate 197 'a' ++ ['😀', 'b'])
    (200 < sql.utf8ByteSize ∧ sql.utf8ByteSize = 202) ∧
      ∃ kept, Event.shown sql = kept ++ "..." ∧ Text.IsLongestFront 200 sql kept ∧
        197 ≤ kept.utf8ByteSize ∧ kept.utf8ByteSize ≤ 200 := by
  intro sql
  have hsize : sql.utf8ByteSize = 202 := by decide +kernel
  have hlong : 200 < sql.utf8ByteSize := by omega
  obtain ⟨_, _, _, _, hkept, _⟩ := shown_text_is_longest_front 200 sql
  exact ⟨⟨hlong, hsize⟩, hkept hlong⟩

end BoundSql
