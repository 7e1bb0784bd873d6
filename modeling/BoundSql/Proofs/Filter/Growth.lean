import BoundSql.Proofs.Clauses.Tests
import BoundSql.Proofs.Statement.Condition

/-!
How a condition grows. A step either leaves the condition as it is or adds one predicate at its end,
with a connective in front unless it is the first. What a step adds is said here by the step alone:
its connective, its text and its operands. No step ever adds a formula without a test, so that from
the first predicate on there is a condition, and there remains one.
-/

namespace BoundSql

/-- The tests of a map in order, joined by a connective. -/
def Tests.spelled (connective : Connective) (tests : Tests) : String :=
  (" " ++ connective.text ++ " ").intercalate
    (tests.entries.map fun (column, predicate) => predicate.spelled Value.mark column)

/-- The tests of a map in parentheses. A single test has none. -/
def Tests.spelledGroup (connective : Connective) (tests : Tests) : String :=
  if tests.size = 1 then Tests.spelled connective tests
  else "(" ++ Tests.spelled connective tests ++ ")"

/-- A subquery that looks for a row with all tests of a map. -/
def Tests.spelledSubquery (negated : Bool) (table : String) (tests : Tests) : String :=
  negation negated ++ "EXISTS (SELECT * FROM " ++ Identifier.quote table ++ " WHERE " ++
    Tests.spelled .and tests ++ ")"

/-- The values that the tests of a map bind, in order. -/
def Tests.operands (tests : Tests) : List Value :=
  tests.entries.flatMap fun (_, predicate) => predicate.operands

/-- What a condition is to grow by. -/
structure Addition where
  connective : Connective
  text : String
  operands : List Value

def Addition.ofPredicate (connective : Connective) (column : String) (predicate : Predicate) :
    Addition :=
  ⟨connective, predicate.spelled Value.mark column, predicate.operands⟩

namespace Step

/-- Whether a step does nothing to the condition: it is about another clause, its test is missing,
its group has no tests, or its subquery has no table or no tests. -/
def leavesCondition : Step → Bool
  | .and _ _ | .or _ _ => false
  | .andOptional _ predicate | .orOptional _ predicate => predicate.isNone
  | .andAnyOf tests | .orAllOf tests => tests.isEmpty
  | .andExists table tests | .andNotExists table tests
  | .orExists table tests | .orNotExists table tests => table.isEmpty || tests.isEmpty
  | .groupBy _ | .orderBy _ _ | .limit _ | .offset _ | .forceIndex _ | .onDuplicateKey _
  | .forUpdate => true

/-- What a step adds to the condition, unless it leaves the condition as it is. The members of a
group are joined by the connective that the group is not joined by. -/
def addition? : Step → Option Addition
  | .and column predicate => some (.ofPredicate .and column predicate)
  | .or column predicate => some (.ofPredicate .or column predicate)
  | .andOptional column predicate => predicate.map (.ofPredicate .and column)
  | .orOptional column predicate => predicate.map (.ofPredicate .or column)
  | .andAnyOf tests => some ⟨.and, Tests.spelledGroup .or tests, Tests.operands tests⟩
  | .orAllOf tests => some ⟨.or, Tests.spelledGroup .and tests, Tests.operands tests⟩
  | .andExists table tests =>
      some ⟨.and, Tests.spelledSubquery false table tests, Tests.operands tests⟩
  | .andNotExists table tests =>
      some ⟨.and, Tests.spelledSubquery true table tests, Tests.operands tests⟩
  | .orExists table tests =>
      some ⟨.or, Tests.spelledSubquery false table tests, Tests.operands tests⟩
  | .orNotExists table tests =>
      some ⟨.or, Tests.spelledSubquery true table tests, Tests.operands tests⟩
  | .groupBy _ | .orderBy _ _ | .limit _ | .offset _ | .forceIndex _ | .onDuplicateKey _
  | .forUpdate => none

end Step

/-- A condition has grown by one predicate, and there will be one from now on. -/
structure Clauses.GrownBy (before after : Clauses) (added : Addition) : Prop where
  size_eq : after.filter.size = before.filter.size + 1
  hasWhere_after : after.hasWhere = true
  hasWhere_later : ∀ later : List Step, (later.foldl Clauses.step after).hasWhere = true
  text_eq : ∀ bound, (after.filter.write.run bound).1 =
    if before.hasWhere then
      (before.filter.write.run bound).1 ++ " " ++ added.connective.text ++ " " ++ added.text
    else added.text
  values_eq : ∀ bound, (after.filter.write.run bound).2 =
    (before.filter.write.run bound).2 ++ added.operands

theorem continued_append (front back : List (Connective × String)) :
    continued (front ++ back) = continued front ++ continued back := by
  induction front with
  | nil => simp [continued]
  | cons part rest ih =>
      rw [List.cons_append, continued, continued, ih]
      simp only [String.append_assoc]

/-- Only the first part of all is written without its connective. -/
theorem joined_append {front : List (Connective × String)} (hne : front ≠ [])
    (back : List (Connective × String)) :
    joined (front ++ back) = joined front ++ continued back := by
  obtain ⟨first, rest, rfl⟩ := List.exists_cons_of_ne_nil hne
  rw [List.cons_append, joined, joined, continued_append, String.append_assoc]

/-- With one connective throughout, joining is putting it between the texts. -/
theorem joined_map_pair (connective : Connective) (texts : List String) :
    joined (texts.map fun text => (connective, text)) =
      (" " ++ connective.text ++ " ").intercalate texts := by
  cases texts with
  | nil => rfl
  | cons first rest =>
      rw [List.map_cons, joined]
      induction rest generalizing first with
      | nil => simp [continued]
      | cons next rest ih =>
          rw [List.map_cons, continued, String.intercalate_cons_cons, ← ih next]
          simp only [String.append_assoc]

namespace Formula

theorem survivors_append (spell : Value → String) (front back : List Formula) :
    survivors spell (front ++ back) = survivors spell front ++ survivors spell back := by
  induction front with
  | nil => rfl
  | cons formula rest ih =>
      rw [List.cons_append]
      by_cases hleaves : formula.leaves = []
      · rw [survivors_cons_of_leaves_eq_nil _ hleaves, survivors_cons_of_leaves_eq_nil _ hleaves,
          ih]
      · rw [survivors_cons_of_leaves_ne_nil _ hleaves, survivors_cons_of_leaves_ne_nil _ hleaves,
          ih, List.cons_append]

end Formula

namespace Filter

theorem size_append (filter : Filter) (formula : Formula) :
    (filter.append formula).size = filter.size + 1 := by
  simp [size]

theorem leaves_append (filter : Filter) (formula : Formula) :
    (filter.append formula).leaves = filter.leaves ++ formula.leaves := by
  rw [leaves, members_append, Formula.memberLeaves_append]
  simp [Formula.memberLeaves, leaves]

theorem operands_append (filter : Filter) (formula : Formula) :
    (filter.append formula).operands = filter.operands ++ formula.operands := by
  have hleaves : Formula.memberLeaves (filter.append formula).members =
      Formula.memberLeaves filter.members ++ formula.leaves := filter.leaves_append formula
  rw [operands, Formula.memberOperands, hleaves, List.flatMap_append]
  rfl

/-- A formula with a test in it comes after the text of the others. -/
theorem spelled_append (filter : Filter) {formula : Formula} (hleaves : formula.leaves ≠ []) :
    (filter.append formula).spelled Value.mark =
      if filter.leaves.isEmpty then formula.body Value.mark
      else filter.spelled Value.mark ++ " " ++ formula.connective.text ++ " " ++
        formula.body Value.mark := by
  have hparts : Formula.survivors Value.mark (filter.append formula).members =
      Formula.survivors Value.mark filter.members ++
        [(formula.connective, formula.body Value.mark)] := by
    rw [members_append, Formula.survivors_append,
      Formula.survivors_cons_of_leaves_ne_nil _ hleaves]
    rfl
  have hnone := Formula.survivors_eq_nil_iff Value.mark filter.members
  rw [spelled, hparts]
  by_cases hfilter : filter.leaves = []
  · rw [hnone.mpr hfilter, if_pos (by simp [hfilter])]
    simp [joined, continued]
  · rw [joined_append (hnone.not.mpr hfilter), if_neg (by simp [hfilter]), spelled]
    simp [continued, String.append_assoc]

end Filter

namespace Tests

variable (tests : Tests) (connective : Connective)

theorem survivors_formulas :
    Formula.survivors Value.mark (tests.formulas connective) =
      (tests.entries.map fun (column, predicate) =>
        predicate.spelled Value.mark column).map fun text => (connective, text) := by
  rw [ColumnMap.formulas]
  induction tests.entries with
  | nil => rfl
  | cons entry rest ih =>
      have htest : (entry.2.on connective entry.1).leaves ≠ [] := List.cons_ne_nil _ _
      rw [List.map_cons, Formula.survivors_cons_of_leaves_ne_nil _ htest, ih]
      rfl

/-- The tests of a map are joined by one connective. -/
theorem joined_formulas :
    joined (Formula.survivors Value.mark (tests.formulas connective)) =
      spelled connective tests := by
  rw [survivors_formulas, joined_map_pair]
  rfl

end Tests

/-- A formula that comes down to what is to be added. -/
structure Addition.Describes (added : Addition) (formula : Formula) : Prop where
  leaves_ne_nil : formula.leaves ≠ []
  connective_eq : formula.connective = added.connective
  body_eq : formula.body Value.mark = added.text
  operands_eq : formula.operands = added.operands

/-- A test is added as it is. -/
theorem describes_test (connective : Connective) (column : String) (predicate : Predicate) :
    (Addition.ofPredicate connective column predicate).Describes
      (predicate.on connective column) := by
  refine ⟨List.cons_ne_nil _ _, rfl, rfl, ?_⟩
  simp [Formula.operands, Predicate.on, Formula.leaves, Addition.ofPredicate]

theorem describes_group (connective inner : Connective) {tests : Tests}
    (hne : tests.isEmpty = false) :
    Addition.Describes ⟨connective, Tests.spelledGroup inner tests, Tests.operands tests⟩
      (.group connective (tests.formulas inner)) := by
  have hleaves : (Formula.group connective (tests.formulas inner)).leaves = tests.entries :=
    Tests.memberLeaves_formulas tests inner
  have hsize : 0 < tests.size := by
    rw [ColumnMap.size, List.length_pos_iff]
    exact List.isEmpty_eq_false_iff.mp hne
  refine ⟨?_, rfl, ?_, ?_⟩
  · rw [hleaves]
    exact List.isEmpty_eq_false_iff.mp hne
  · have hlength : (Formula.survivors Value.mark (tests.formulas inner)).length = tests.size := by
      simp [Tests.survivors_formulas, ColumnMap.size]
    have hsingle : tests.size ≤ 1 ↔ tests.size = 1 := by omega
    rw [Formula.body_group, hlength, Tests.joined_formulas]
    simp only [hsingle]
    rfl
  · rw [Formula.operands, hleaves]
    rfl

/-- A subquery is added as a whole, its tests joined by AND. -/
theorem describes_subquery (connective : Connective) (negated : Bool) {table : String}
    {tests : Tests} (htable : table.isEmpty = false) (hne : tests.isEmpty = false) :
    Addition.Describes
      ⟨connective, Tests.spelledSubquery negated table tests, Tests.operands tests⟩
      (.subquery connective table (tests.formulas .and) negated) := by
  have hleaves : (Formula.subquery connective table (tests.formulas .and) negated).leaves =
      tests.entries := by
    rw [Formula.leaves_subquery htable, Tests.memberLeaves_formulas]
  refine ⟨?_, rfl, ?_, ?_⟩
  · rw [hleaves]
    exact List.isEmpty_eq_false_iff.mp hne
  · rw [Formula.body, Tests.joined_formulas]
    rfl
  · rw [Formula.operands, hleaves]
    rfl

namespace Clauses

/-- What a step can do to the condition: nothing, or add a formula that comes down to the addition
of the step. -/
inductive FilterStep (clauses : Clauses) (next : Step) : Prop where
  | left (hleft : next.leavesCondition = true)
      (hfilter : (clauses.step next).filter = clauses.filter)
  | grown (added : Addition) (formula : Formula) (hleft : next.leavesCondition = false)
      (hadded : next.addition? = some added) (hdescribes : added.Describes formula)
      (hfilter : (clauses.step next).filter = clauses.filter.append formula)

/-- A step for a group adds nothing or the group of its tests. -/
private theorem filterStep_group {clauses : Clauses} {next : Step} (connective : Connective)
    {tests : Tests} (hleft : next.leavesCondition = tests.isEmpty)
    (hadded : next.addition? =
      some ⟨connective, Tests.spelledGroup connective.opposite tests, Tests.operands tests⟩)
    (hstep : clauses.step next = clauses.addGroup connective tests) :
    clauses.FilterStep next := by
  cases hempty : tests.isEmpty with
  | true =>
      refine .left (hleft.trans hempty) ?_
      rw [hstep, addGroup_eq, Step.groupFormulas, if_pos hempty, addAll_nil]
  | false =>
      refine .grown _ _ (hleft.trans hempty) hadded
        (describes_group connective connective.opposite hempty) ?_
      rw [hstep, addGroup_eq, Step.groupFormulas, if_neg (by simp [hempty])]
      rfl

/-- A step for a subquery adds nothing or the subquery on its table. -/
private theorem filterStep_subquery {clauses : Clauses} {next : Step} (connective : Connective)
    (negated : Bool) {table : String} {tests : Tests}
    (hleft : next.leavesCondition = (table.isEmpty || tests.isEmpty))
    (hadded : next.addition? =
      some ⟨connective, Tests.spelledSubquery negated table tests, Tests.operands tests⟩)
    (hstep : clauses.step next = clauses.addSubquery connective negated table tests) :
    clauses.FilterStep next := by
  cases hempty : table.isEmpty || tests.isEmpty with
  | true =>
      refine .left (hleft.trans hempty) ?_
      rw [hstep, addSubquery_eq, Step.subqueryFormulas, if_pos hempty, addAll_nil]
  | false =>
      obtain ⟨htable, htests⟩ := Bool.or_eq_false_iff.mp hempty
      refine .grown _ _ (hleft.trans hempty) hadded
        (describes_subquery connective negated htable htests) ?_
      rw [hstep, addSubquery_eq, Step.subqueryFormulas, if_neg (by simp [hempty])]
      rfl

/-- Every step does one of the two. -/
theorem filterStep (clauses : Clauses) (next : Step) : clauses.FilterStep next := by
  cases next with
  | and column predicate =>
      exact .grown _ _ rfl rfl (describes_test .and column predicate) rfl
  | or column predicate =>
      exact .grown _ _ rfl rfl (describes_test .or column predicate) rfl
  | andOptional column predicate =>
      cases predicate with
      | none => exact .left rfl rfl
      | some predicate => exact .grown _ _ rfl rfl (describes_test .and column predicate) rfl
  | orOptional column predicate =>
      cases predicate with
      | none => exact .left rfl rfl
      | some predicate => exact .grown _ _ rfl rfl (describes_test .or column predicate) rfl
  | andAnyOf tests => exact filterStep_group .and rfl rfl rfl
  | orAllOf tests => exact filterStep_group .or rfl rfl rfl
  | andExists table tests => exact filterStep_subquery .and false rfl rfl rfl
  | andNotExists table tests => exact filterStep_subquery .and true rfl rfl rfl
  | orExists table tests => exact filterStep_subquery .or false rfl rfl rfl
  | orNotExists table tests => exact filterStep_subquery .or true rfl rfl rfl
  | groupBy columns => exact .left rfl rfl
  | orderBy column direction => exact .left rfl rfl
  | limit count => exact .left rfl rfl
  | offset count => exact .left rfl rfl
  | forceIndex name => exact .left rfl rfl
  | onDuplicateKey assignments => exact .left rfl rfl
  | forUpdate => exact .left rfl rfl

theorem hasWhere_iff_leaves_ne_nil (clauses : Clauses) :
    clauses.hasWhere = true ↔ clauses.filter.leaves ≠ [] := by
  rw [hasWhere_eq]
  simp

/-- A condition stays one. -/
theorem hasWhere_step {clauses : Clauses} (next : Step) (h : clauses.hasWhere = true) :
    (clauses.step next).hasWhere = true := by
  rw [hasWhere_iff_leaves_ne_nil] at h ⊢
  cases clauses.filterStep next with
  | left _ hfilter => rwa [hfilter]
  | grown added formula _ _ _ hfilter =>
      rw [hfilter, Filter.leaves_append]
      exact List.append_ne_nil_of_left_ne_nil h formula.leaves

/-- No step takes a condition back. -/
theorem hasWhere_foldl_step {clauses : Clauses} (later : List Step)
    (h : clauses.hasWhere = true) : (later.foldl step clauses).hasWhere = true := by
  induction later generalizing clauses with
  | nil => exact h
  | cons next rest ih => exact ih (hasWhere_step next h)

/-- Adding a formula that comes down to an addition makes the condition grow by it. -/
theorem grownBy_of_append {before after : Clauses} {added : Addition} {formula : Formula}
    (hdescribes : added.Describes formula)
    (hfilter : after.filter = before.filter.append formula) : before.GrownBy after added := by
  have hwhere : after.hasWhere = true := by
    rw [hasWhere_iff_leaves_ne_nil, hfilter, Filter.leaves_append]
    exact List.append_ne_nil_of_right_ne_nil _ hdescribes.leaves_ne_nil
  refine ⟨?_, hwhere, ?_, ?_, ?_⟩
  · rw [hfilter, Filter.size_append]
  · intro later
    exact hasWhere_foldl_step later hwhere
  · intro bound
    rw [hfilter, Filter.run_write, Filter.run_write, before.filter.spelled_append
      hdescribes.leaves_ne_nil, hdescribes.connective_eq, hdescribes.body_eq, hasWhere_eq]
    cases before.filter.leaves.isEmpty <;> rfl
  · intro bound
    rw [hfilter, Filter.run_write, Filter.run_write, Filter.operands_append,
      hdescribes.operands_eq, List.append_assoc]

/-- Every formula of the condition has a test in it. -/
def Substantial (clauses : Clauses) : Prop :=
  ∀ formula ∈ clauses.filter.members, formula.isEmpty = false

theorem Substantial.step {clauses : Clauses} (h : clauses.Substantial) (next : Step) :
    (clauses.step next).Substantial := by
  intro formula hmem
  cases clauses.filterStep next with
  | left _ hfilter =>
      rw [hfilter] at hmem
      exact h formula hmem
  | grown added new _ _ hdescribes hfilter =>
      rw [hfilter, Filter.members_append] at hmem
      rcases List.mem_append.mp hmem with hold | hnew
      · exact h formula hold
      · rw [List.mem_singleton.mp hnew, Formula.isEmpty_eq_isEmpty_leaves]
        exact List.isEmpty_eq_false_iff.mpr hdescribes.leaves_ne_nil

/-- No run of steps leaves an empty formula in the condition. -/
theorem substantial_ofSteps (steps : List Step) : (ofSteps steps).Substantial := by
  have hrun (clauses : Clauses) (h : clauses.Substantial) :
      (steps.foldl Clauses.step clauses).Substantial := by
    induction steps generalizing clauses with
    | nil => exact h
    | cons next rest ih => exact ih (clauses.step next) (h.step next)
  apply hrun {}
  intro formula hmem
  cases hmem

/-- Without a formula that is empty there is a condition as soon as there is a formula. -/
theorem Substantial.hasWhere_iff {clauses : Clauses} (h : clauses.Substantial) :
    clauses.hasWhere = true ↔ 0 < clauses.filter.size := by
  rw [hasWhere, Filter.isEmpty, Formula.allEmpty_eq_all, Filter.size, List.length_pos_iff]
  unfold Substantial at h
  cases hmembers : clauses.filter.members with
  | nil => simp
  | cons first rest =>
      have hfirst : first.isEmpty = false := h first (by simp [hmembers])
      simp [hfirst]

end Clauses

/-- A step that has nothing to add leaves the condition as it is. Every other step makes it longer
by one: what the step binds comes after all that was bound, and its text comes after the text before
it, with its connective between the two unless it is the first. So no formula of a condition is ever
empty, and there is a condition just when it has a formula. -/
theorem steps_grow_condition (steps : List Step) :
    (∀ next : Step,
      let before := Clauses.ofSteps steps
      let after := Clauses.ofSteps (steps ++ [next])
      (after.filter = before.filter ↔ next.leavesCondition = true) ∧
        (next.leavesCondition = false →
          ∃ added, next.addition? = some added ∧ before.GrownBy after added)) ∧
    (∀ formula ∈ (Clauses.ofSteps steps).filter.members, formula.isEmpty = false) ∧
    ((Clauses.ofSteps steps).hasWhere = true ↔ 0 < (Clauses.ofSteps steps).filter.size) := by
  have hsubstantial := Clauses.substantial_ofSteps steps
  refine ⟨?_, hsubstantial, hsubstantial.hasWhere_iff⟩
  intro next before after
  have hafter : after = before.step next := by
    unfold after before Clauses.ofSteps
    rw [List.foldl_append]
    rfl
  rw [hafter]
  cases before.filterStep next with
  | left hleft hfilter =>
      refine ⟨iff_of_true hfilter hleft, ?_⟩
      intro hgrows
      rw [hleft] at hgrows
      cases hgrows
  | grown added formula hleft hadded hdescribes hfilter =>
      have hgrown := Clauses.grownBy_of_append hdescribes hfilter
      refine ⟨iff_of_false ?_ (by simp [hleft]), ?_⟩
      · intro hsame
        have hsize := hgrown.size_eq
        rw [hsame] at hsize
        omega
      · intro _
        exact ⟨added, hadded, hgrown⟩

/-- The first connective is dropped and the second is not; a missing test does not come first. -/
theorem grown_by_subquery_after_group :
    let steps : List Step :=
      [.andOptional "id" none,
        .orAllOf (.ofPairs
          [("name", .like (.text "x") .prefixed true), ("age", .inList [.int 1, .int 2] false)]),
        .limit 3]
    let next : Step := .orNotExists "order" (.ofPairs [("id", .eq .null), ("paid", .isNull true)])
    next.leavesCondition = false ∧
      ((Clauses.ofSteps (steps ++ [next])).filter.write.run []).1 =
        "(`name` NOT LIKE ? AND `age` IN (?,?)) OR " ++
          "NOT EXISTS (SELECT * FROM `order` WHERE `id`=? AND `paid` IS NOT NULL)" := by
  intro steps next
  refine ⟨rfl, ?_⟩
  obtain ⟨added, hadded, hgrown⟩ := ((steps_grow_condition steps).1 next).2 rfl
  cases hadded
  rw [hgrown.text_eq]
  decide +kernel

end BoundSql
