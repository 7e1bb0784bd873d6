import BoundSql.Clauses

/-!
What the order of steps matters for. Every step is about one topic: the condition, or one of the
other clauses. It changes the part of the clauses that belongs to its topic, and what it makes of
that part depends on nothing else. So steps about different topics may be mixed in any way, and only
the order of those about one topic counts.

The topics differ in what a step does to what is there already. A condition, a grouping and an order
get longer. A limit, an offset, an index and the assignments for rows that are there already are
replaced, so that of the steps about them only the last one counts. A lock, once asked for, stays.
-/

namespace BoundSql

/-- What a step is about. -/
inductive Topic where
  | condition : Topic
  | groupBy : Topic
  | orderBy : Topic
  | limit : Topic
  | offset : Topic
  | forceIndex : Topic
  | onDuplicateKey : Topic
  | forUpdate : Topic
  deriving DecidableEq

namespace Topic

/-- The part of the clauses that belongs to a topic. -/
abbrev Part : Topic → Type
  | .condition => Filter
  | .groupBy => List String
  | .orderBy => List SortKey
  | .limit => Option Nat
  | .offset => Option Nat
  | .forceIndex => Option String
  | .onDuplicateKey => Option Assignments
  | .forUpdate => Bool

end Topic

namespace Step

def topic : Step → Topic
  | .and _ _ | .or _ _ | .andOptional _ _ | .orOptional _ _ | .andAnyOf _ | .orAllOf _
  | .andExists _ _ | .andNotExists _ _ | .orExists _ _ | .orNotExists _ _ => .condition
  | .groupBy _ => .groupBy
  | .orderBy _ _ => .orderBy
  | .limit _ => .limit
  | .offset _ => .offset
  | .forceIndex _ => .forceIndex
  | .onDuplicateKey _ => .onDuplicateKey
  | .forUpdate => .forUpdate

/-- A group as the formula that is added to a condition, if it has a test. -/
def groupFormulas (connective : Connective) (tests : Tests) : List Formula :=
  if tests.isEmpty then [] else [.group connective (tests.formulas connective.opposite)]

/-- A subquery as the formula that is added to a condition, if it has a table and a test. -/
def subqueryFormulas (connective : Connective) (negated : Bool) (table : String) (tests : Tests) :
    List Formula :=
  if table.isEmpty || tests.isEmpty then []
  else [.subquery connective table (tests.formulas .and) negated]

/-- The formulas that a step adds to the condition: one or none. -/
def formulas : Step → List Formula
  | .and column predicate => [predicate.on .and column]
  | .or column predicate => [predicate.on .or column]
  | .andOptional column predicate => predicate.toList.map fun predicate => predicate.on .and column
  | .orOptional column predicate => predicate.toList.map fun predicate => predicate.on .or column
  | .andAnyOf tests => groupFormulas .and tests
  | .orAllOf tests => groupFormulas .or tests
  | .andExists table tests => subqueryFormulas .and false table tests
  | .andNotExists table tests => subqueryFormulas .and true table tests
  | .orExists table tests => subqueryFormulas .or false table tests
  | .orNotExists table tests => subqueryFormulas .or true table tests
  | _ => []

end Step

namespace Step

variable {topic removed : Topic}

end Step

namespace Clauses

variable {clauses others : Clauses} {next : Step} {topic : Topic}

def part (clauses : Clauses) : (topic : Topic) → topic.Part
  | .condition => clauses.filter
  | .groupBy => clauses.groupBy
  | .orderBy => clauses.orderBy
  | .limit => clauses.limit
  | .offset => clauses.offset
  | .forceIndex => clauses.forceIndex
  | .onDuplicateKey => clauses.onDuplicateKey
  | .forUpdate => clauses.forUpdate

/-- Clauses are made of their parts. -/
theorem eq_of_parts (h : ∀ topic, clauses.part topic = others.part topic) : clauses = others := by
  obtain ⟨filter, groupBy, orderBy, limit, offset, forceIndex, onDuplicateKey, forUpdate⟩ := clauses
  obtain ⟨filter', groupBy', orderBy', limit', offset', forceIndex', onDuplicateKey',
    forUpdate'⟩ := others
  obtain rfl : filter = filter' := h .condition
  obtain rfl : groupBy = groupBy' := h .groupBy
  obtain rfl : orderBy = orderBy' := h .orderBy
  obtain rfl : limit = limit' := h .limit
  obtain rfl : offset = offset' := h .offset
  obtain rfl : forceIndex = forceIndex' := h .forceIndex
  obtain rfl : onDuplicateKey = onDuplicateKey' := h .onDuplicateKey
  obtain rfl : forUpdate = forUpdate' := h .forUpdate
  rfl

/-- Adds some formulas to the condition. -/
def addAll (clauses : Clauses) (formulas : List Formula) : Clauses :=
  { clauses with filter := ⟨clauses.filter.members ++ formulas⟩ }

theorem addAll_nil (clauses : Clauses) : clauses.addAll [] = clauses := by
  rw [addAll, List.append_nil]

theorem addGroup_eq (clauses : Clauses) (connective : Connective) (tests : Tests) :
    clauses.addGroup connective tests = clauses.addAll (Step.groupFormulas connective tests) := by
  rw [addGroup, Step.groupFormulas]
  split
  · exact clauses.addAll_nil.symm
  · rfl

theorem addSubquery_eq (clauses : Clauses) (connective : Connective) (negated : Bool)
    (table : String) (tests : Tests) :
    clauses.addSubquery connective negated table tests =
      clauses.addAll (Step.subqueryFormulas connective negated table tests) := by
  rw [addSubquery, Step.subqueryFormulas]
  split
  · exact clauses.addAll_nil.symm
  · rfl

/-- A step about the condition adds its formulas at the end. -/
theorem step_condition (clauses : Clauses) (h : next.topic = .condition) :
    clauses.step next = clauses.addAll next.formulas := by
  cases next with
  | and column predicate => rfl
  | or column predicate => rfl
  | andOptional column predicate =>
      cases predicate with
      | none => exact clauses.addAll_nil.symm
      | some predicate => rfl
  | orOptional column predicate =>
      cases predicate with
      | none => exact clauses.addAll_nil.symm
      | some predicate => rfl
  | andAnyOf tests => exact clauses.addGroup_eq .and tests
  | orAllOf tests => exact clauses.addGroup_eq .or tests
  | andExists table tests => exact clauses.addSubquery_eq .and false table tests
  | andNotExists table tests => exact clauses.addSubquery_eq .and true table tests
  | orExists table tests => exact clauses.addSubquery_eq .or false table tests
  | orNotExists table tests => exact clauses.addSubquery_eq .or true table tests
  | _ => cases h

/-- A step leaves the parts of all other topics as they are. -/
theorem part_step_of_ne (clauses : Clauses) (h : next.topic ≠ topic) :
    (clauses.step next).part topic = clauses.part topic := by
  -- The ten kinds of steps about the condition all add formulas, and are one case here.
  by_cases hcondition : next.topic = .condition
  · rw [step_condition clauses hcondition]
    cases topic with
    | condition => exact absurd hcondition h
    | _ => rfl
  · cases next with
    | groupBy columns =>
        cases topic with
        | groupBy => exact absurd rfl h
        | _ => rfl
    | orderBy column direction =>
        cases topic with
        | orderBy => exact absurd rfl h
        | _ => rfl
    | limit count =>
        cases topic with
        | limit => exact absurd rfl h
        | _ => rfl
    | offset count =>
        cases topic with
        | offset => exact absurd rfl h
        | _ => rfl
    | forceIndex name =>
        cases topic with
        | forceIndex => exact absurd rfl h
        | _ => rfl
    | onDuplicateKey assignments =>
        cases topic with
        | onDuplicateKey => exact absurd rfl h
        | _ => rfl
    | forUpdate =>
        cases topic with
        | forUpdate => exact absurd rfl h
        | _ => rfl
    | _ => exact absurd rfl hcondition

/-- A list to which every step adds at its end. -/
theorem grown_foldl {α : Type} (grown : Clauses → List α) (added : Step → List α)
    (hstep : ∀ clauses next, grown (step clauses next) = grown clauses ++ added next)
    (clauses : Clauses) (steps : List Step) :
    grown (steps.foldl step clauses) = grown clauses ++ steps.flatMap added := by
  induction steps generalizing clauses with
  | nil => exact (List.append_nil _).symm
  | cons next rest ih => rw [List.foldl_cons, ih, hstep, List.append_assoc, List.flatMap_cons]

end Clauses

end BoundSql
