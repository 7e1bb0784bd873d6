import BoundSql.Proofs.Clauses.Topics
import BoundSql.Proofs.Formula.Spelling

/-!
The tests of a condition that is built by steps: those of its steps, in their order, and no others.
So whatever is known of the predicates that the steps are given is known of the whole condition. In
particular no symbol gets into its text but those of the six comparisons, unless a caller has made
up a comparison of another kind.
-/

namespace BoundSql

/-- A predicate that is made by one of the named comparisons, or that is no comparison. It has no
symbol of its caller's. -/
inductive Predicate.IsBuilt : Predicate → Prop
  | eq (value : Value) : IsBuilt (.eq value)
  | ne (value : Value) : IsBuilt (.ne value)
  | gt (value : Value) : IsBuilt (.gt value)
  | ge (value : Value) : IsBuilt (.ge value)
  | lt (value : Value) : IsBuilt (.lt value)
  | le (value : Value) : IsBuilt (.le value)
  | between (lower upper : Value) (negated : Bool) : IsBuilt (.between lower upper negated)
  | inList (values : List Value) (negated : Bool) : IsBuilt (.inList values negated)
  | like (value : Value) (wildcard : Wildcard) (negated : Bool) :
      IsBuilt (.like value wildcard negated)
  | isNull (negated : Bool) : IsBuilt (.isNull negated)

/-- The named comparisons are all comparisons by a symbol that SQL knows. -/
theorem Predicate.isBuilt_iff {predicate : Predicate} :
    predicate.IsBuilt ↔ ∀ symbol ∈ predicate.symbols, symbol ∈ comparisonSymbols := by
  constructor
  · intro h
    cases h with
    | between lower upper negated => exact nofun
    | inList values negated => exact nofun
    | like value wildcard negated => exact nofun
    | isNull negated => exact nofun
    | _ => simp [symbols, eq, ne, gt, ge, lt, le, comparisonSymbols]
  · intro h
    cases predicate with
    | compare symbol value =>
        have hsymbol : symbol ∈ comparisonSymbols := h symbol List.mem_cons_self
        simp only [comparisonSymbols, List.mem_cons, List.not_mem_nil, or_false] at hsymbol
        rcases hsymbol with rfl | rfl | rfl | rfl | rfl | rfl
        · exact .eq value
        · exact .ne value
        · exact .gt value
        · exact .ge value
        · exact .lt value
        · exact .le value
    | between lower upper negated => exact .between lower upper negated
    | inList values negated => exact .inList values negated
    | like value wildcard negated => exact .like value wildcard negated
    | isNull negated => exact .isNull negated

instance (predicate : Predicate) : Decidable predicate.IsBuilt :=
  decidable_of_iff _ Predicate.isBuilt_iff.symm

/-- The tests that a step adds to the condition, each with its column. -/
def Step.tests : Step → List (String × Predicate)
  | .and column predicate | .or column predicate => [(column, predicate)]
  | .andOptional column predicate | .orOptional column predicate =>
      predicate.toList.map fun predicate => (column, predicate)
  | .andAnyOf tests | .orAllOf tests => tests.entries
  | .andExists table tests | .andNotExists table tests
  | .orExists table tests | .orNotExists table tests =>
      if table.isEmpty then [] else tests.entries
  | _ => []

theorem Formula.memberLeaves_append (front back : List Formula) :
    memberLeaves (front ++ back) = memberLeaves front ++ memberLeaves back := by
  induction front with
  | nil => rfl
  | cons formula rest ih =>
      rw [List.cons_append, memberLeaves, memberLeaves, ih, List.append_assoc]

/-- Made into formulas, the tests of a map are still the same tests. -/
theorem Tests.memberLeaves_formulas (tests : Tests) (connective : Connective) :
    Formula.memberLeaves (tests.formulas connective) = tests.entries := by
  rw [ColumnMap.formulas]
  induction tests.entries with
  | nil => rfl
  | cons entry rest ih =>
      rw [List.map_cons, Formula.memberLeaves, ih]
      rfl

namespace Step

theorem memberLeaves_groupFormulas (connective : Connective) (tests : Tests) :
    Formula.memberLeaves (groupFormulas connective tests) = tests.entries := by
  rw [groupFormulas]
  split
  · next hempty => exact (List.isEmpty_iff.mp hempty).symm
  · rw [Formula.memberLeaves, Formula.leaves, Tests.memberLeaves_formulas]
    exact List.append_nil _

/-- A subquery without a table is not added at all. -/
theorem memberLeaves_subqueryFormulas (connective : Connective) (negated : Bool) (table : String)
    (tests : Tests) :
    Formula.memberLeaves (subqueryFormulas connective negated table tests) =
      if table.isEmpty then [] else tests.entries := by
  cases htable : table.isEmpty with
  | true =>
      rw [subqueryFormulas, htable]
      rfl
  | false =>
      rw [subqueryFormulas, htable, Bool.false_or]
      split
      · next hempty => exact (List.isEmpty_iff.mp hempty).symm
      · rw [Formula.memberLeaves, Formula.leaves_subquery htable, Tests.memberLeaves_formulas]
        exact List.append_nil _

/-- The formulas that a step adds have its tests in them, and no others. -/
theorem memberLeaves_formulas (next : Step) : Formula.memberLeaves next.formulas = next.tests := by
  cases next with
  | andOptional column predicate => cases predicate <;> rfl
  | orOptional column predicate => cases predicate <;> rfl
  | andAnyOf tests => exact memberLeaves_groupFormulas .and tests
  | orAllOf tests => exact memberLeaves_groupFormulas .or tests
  | andExists table tests => exact memberLeaves_subqueryFormulas .and false table tests
  | andNotExists table tests => exact memberLeaves_subqueryFormulas .and true table tests
  | orExists table tests => exact memberLeaves_subqueryFormulas .or false table tests
  | orNotExists table tests => exact memberLeaves_subqueryFormulas .or true table tests
  | _ => rfl

end Step

namespace Clauses

/-- The formulas of a step come after those of the condition. -/
theorem members_step (clauses : Clauses) (next : Step) :
    (clauses.step next).filter.members = clauses.filter.members ++ next.formulas := by
  by_cases htopic : next.topic = .condition
  · rw [step_condition clauses htopic]
    rfl
  · have hfilter : (clauses.step next).filter = clauses.filter := part_step_of_ne clauses htopic
    have hnone : next.formulas = [] := by
      cases next with
      | groupBy | orderBy | limit | offset | forceIndex | onDuplicateKey | forUpdate => rfl
      | _ => exact absurd rfl htopic
    rw [hfilter, hnone, List.append_nil]

theorem leaves_step (clauses : Clauses) (next : Step) :
    (clauses.step next).filter.leaves = clauses.filter.leaves ++ next.tests := by
  rw [Filter.leaves, members_step, Formula.memberLeaves_append, Step.memberLeaves_formulas]
  rfl

/-- A condition has the tests of the steps that have built it, in their order. -/
theorem leaves_ofSteps (steps : List Step) :
    (ofSteps steps).filter.leaves = steps.flatMap Step.tests :=
  grown_foldl (fun clauses => clauses.filter.leaves) Step.tests leaves_step {} steps

/-- What holds of the six symbols that SQL knows holds of every symbol in a condition, as long as
the comparisons that the steps are given are named ones. -/
theorem forall_mem_symbols_ofSteps {steps : List Step} {P : String → Prop}
    (hbuilt : ∀ next ∈ steps, ∀ test ∈ next.tests, test.2.IsBuilt)
    (hknown : ∀ symbol ∈ Predicate.comparisonSymbols, P symbol) :
    ∀ symbol ∈ (ofSteps steps).filter.symbols, P symbol := by
  rw [Filter.forall_mem_symbols, leaves_ofSteps]
  intro test htest symbol hsymbol
  obtain ⟨next, hnext, hmem⟩ := List.mem_flatMap.mp htest
  exact hknown symbol (Predicate.isBuilt_iff.mp (hbuilt next hnext test hmem) symbol hsymbol)

end Clauses

end BoundSql
