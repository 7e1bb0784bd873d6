import BoundSql.Proofs.Clauses.Topics
import BoundSql.Proofs.Identifier.Runs
import BoundSql.Proofs.Statement.Blindness

/-!
The outline of a statement: what it says apart from its names and its values. Every name is replaced
by a blank one, which is written as two marks with nothing between them, and every value by null;
the number of names, the kinds of predicates, connectives, directions, limits and flags stay. A call
on an outline is answered with the text of the original call in which all names are blank.

A column to sort by is quoted when its step is made, and all other names when the text is written. A
scope in which all names are as they were given is turned into the one that is written from by
`written`.
-/

namespace BoundSql

open Identifier (blank)

/-- The sort key of a step, with its column as it was given. -/
def Step.sortKey? : Step → Option SortKey
  | .orderBy column direction => some ⟨column, direction⟩
  | _ => none

def SortKey.written (key : SortKey) : SortKey :=
  { key with column := Identifier.quote key.column }

/-- The clauses after some steps, but with all names as they were given. -/
def Clauses.given (steps : List Step) : Clauses :=
  { Clauses.ofSteps steps with orderBy := steps.filterMap Step.sortKey? }

def Clauses.written (clauses : Clauses) : Clauses :=
  { clauses with orderBy := clauses.orderBy.map SortKey.written }

def Scope.written (scope : Scope) : Scope :=
  { scope with clauses := scope.clauses.written }

namespace Clauses

/-- A step adds the column it sorts by in its written form, if it sorts at all. -/
theorem orderBy_step (clauses : Clauses) (next : Step) :
    (clauses.step next).orderBy = clauses.orderBy ++ next.sortKey?.toList.map SortKey.written := by
  by_cases htopic : next.topic = .orderBy
  · cases next with
    | orderBy column direction => rfl
    | _ => cases htopic
  · have hpart : (clauses.step next).orderBy = clauses.orderBy := part_step_of_ne clauses htopic
    have hnone : next.sortKey? = none := by
      cases next with
      | orderBy column direction => exact absurd rfl htopic
      | _ => rfl
    rw [hpart, hnone, Option.toList_none, List.map_nil, List.append_nil]

/-- Columns to sort by are kept in the order of the steps, each as often as it is given. -/
theorem orderBy_ofSteps (steps : List Step) :
    (ofSteps steps).orderBy = (steps.filterMap Step.sortKey?).map SortKey.written := by
  have hkeys := grown_foldl orderBy (fun next => next.sortKey?.toList.map SortKey.written)
    orderBy_step {} steps
  rw [List.filterMap_eq_flatMap_toList, List.map_flatMap]
  exact hkeys

/-- Each of them is quoted once. -/
theorem ofSteps_eq_written (steps : List Step) : ofSteps steps = (given steps).written := by
  unfold written given
  rw [← orderBy_ofSteps]

end Clauses

/-- A name with nothing left of it but that it is there. -/
def Identifier.blanked (name : String) : String :=
  if name.isEmpty then "" else blank

theorem Identifier.isEmpty_blanked (name : String) : (blanked name).isEmpty = name.isEmpty := by
  unfold blanked
  cases hname : name.isEmpty with
  | true => rfl
  | false => decide

/-- The entries of a map under blank names. -/
def ColumnMap.unnamed {α : Type} (map : ColumnMap α) : ColumnMap α :=
  ⟨map.entries.map fun (_, value) => (blank, value)⟩

namespace Formula

mutual

def unnamed : Formula → Formula
  | .test connective _ predicate => .test connective blank predicate
  | .group connective members => .group connective (membersUnnamed members)
  | .subquery connective table members negated =>
      .subquery connective (Identifier.blanked table) (membersUnnamed members) negated

def membersUnnamed : List Formula → List Formula
  | [] => []
  | formula :: rest => formula.unnamed :: membersUnnamed rest

end

end Formula

def Filter.unnamed (filter : Filter) : Filter :=
  ⟨Formula.membersUnnamed filter.members⟩

def Clauses.unnamed (clauses : Clauses) : Clauses :=
  { clauses with
    filter := clauses.filter.unnamed
    groupBy := clauses.groupBy.map fun _ => blank
    orderBy := clauses.orderBy.map fun key => { key with column := blank }
    forceIndex := clauses.forceIndex.map fun _ => blank
    onDuplicateKey := clauses.onDuplicateKey.map ColumnMap.unnamed }

def Scope.unnamed (scope : Scope) : Scope :=
  { table := blank, clauses := scope.clauses.unnamed }

def Task.unnamed : Task → Task
  | .nothing => .nothing
  | .select columns => .select (columns.map fun _ => blank)
  | .update assignments => .update (ColumnMap.unnamed assignments)
  | .delete => .delete
  | .insertRecords columns records => .insertRecords (columns.map fun _ => blank) records
  | .insertIf columns record => .insertIf (columns.map fun _ => blank) record

def Call.unnamed : Call → Call
  | .select columns => .select (columns.map fun _ => blank)
  | .selectRecord columns => .selectRecord (columns.map fun _ => blank)
  | .selectFor columns hasTarget => .selectFor (columns.map fun _ => blank) hasTarget
  | .update assignments => .update (assignments.map ColumnMap.unnamed)
  | .delete => .delete
  | .insert columns records => .insert (columns.map fun _ => blank) records

theorem ColumnMap.isEmpty_unnamed {α : Type} (map : ColumnMap α) :
    map.unnamed.isEmpty = map.isEmpty :=
  List.isEmpty_map

namespace Formula

theorem connective_unnamed (formula : Formula) :
    formula.unnamed.connective = formula.connective := by
  cases formula <;> rfl

mutual

/-- Taking names away keeps every test, and whether a table is named at all. -/
theorem leaves_unnamed : ∀ formula : Formula,
    formula.unnamed.leaves = formula.leaves.map fun (_, predicate) => (blank, predicate)
  | .test _ _ _ => rfl
  | .group _ members => memberLeaves_unnamed members
  | .subquery _ table members _ => by
      rw [unnamed, leaves, leaves, Identifier.isEmpty_blanked, memberLeaves_unnamed members]
      split <;> rfl

theorem memberLeaves_unnamed : ∀ members : List Formula,
    memberLeaves (membersUnnamed members) =
      (memberLeaves members).map fun (_, predicate) => (blank, predicate)
  | [] => rfl
  | formula :: rest => by
      rw [membersUnnamed, memberLeaves, memberLeaves, leaves_unnamed formula,
        memberLeaves_unnamed rest, List.map_append]

end

theorem leaves_unnamed_eq_nil_iff (formula : Formula) :
    formula.unnamed.leaves = [] ↔ formula.leaves = [] := by
  rw [leaves_unnamed, List.map_eq_nil_iff]

/-- As many members are written as before, so the parentheses of a group stay. -/
theorem length_survivors_unnamed (members : List Formula) :
    (survivors Value.mark (membersUnnamed members)).length =
      (survivors Value.mark members).length := by
  induction members with
  | nil => rfl
  | cons formula rest ih =>
      have hiff := formula.leaves_unnamed_eq_nil_iff
      rw [membersUnnamed]
      by_cases hleaves : formula.leaves = []
      · rw [survivors_cons_of_leaves_eq_nil _ hleaves,
          survivors_cons_of_leaves_eq_nil _ (hiff.mpr hleaves), ih]
      · rw [survivors_cons_of_leaves_ne_nil _ hleaves,
          survivors_cons_of_leaves_ne_nil _ (hiff.not.mpr hleaves), List.length_cons,
          List.length_cons, ih]

mutual

/-- What is left out of the text has no names there. -/
theorem names_of_leaves_eq_nil : ∀ formula : Formula, formula.leaves = [] → formula.names = []
  | .test _ _ _, hleaves => by cases hleaves
  | .group _ members, hleaves => memberNames_of_memberLeaves_eq_nil members hleaves
  | .subquery _ table members _, hleaves => by
      rw [leaves] at hleaves
      rw [names]
      cases htable : table.isEmpty with
      | true => rfl
      | false =>
          rw [htable, if_neg Bool.false_ne_true] at hleaves
          simp [hleaves]

/-- Members without a test have no name in the text. -/
theorem memberNames_of_memberLeaves_eq_nil : ∀ members : List Formula,
    memberLeaves members = [] → memberNames members = []
  | [], _ => rfl
  | formula :: rest, hleaves => by
      obtain ⟨hfirst, hrest⟩ := List.append_eq_nil_iff.mp hleaves
      rw [memberNames, names_of_leaves_eq_nil formula hfirst,
        memberNames_of_memberLeaves_eq_nil rest hrest]
      rfl

end

end Formula

namespace Clauses

theorem hasWhere_unnamed (clauses : Clauses) : clauses.unnamed.hasWhere = clauses.hasWhere := by
  have hunnamed : clauses.unnamed.filter = clauses.filter.unnamed := rfl
  rw [hasWhere, hasWhere, hunnamed, Filter.isEmpty_eq_isEmpty_leaves,
    Filter.isEmpty_eq_isEmpty_leaves, Filter.leaves, Filter.leaves, Filter.unnamed,
    Formula.memberLeaves_unnamed, List.isEmpty_map]

end Clauses

namespace Scope

theorem task_written (scope : Scope) (call : Call) : scope.written.task call = scope.task call := by
  cases call with
  | insert columns records => cases records <;> rfl
  | _ => rfl

/-- Steps build what they are given, with the columns to sort by in their written form. -/
theorem ofSteps_eq_written (table : String) (steps : List Step) :
    ({ table, clauses := .ofSteps steps } : Scope) =
      Scope.written { table, clauses := .given steps } := by
  rw [Clauses.ofSteps_eq_written]
  rfl

/-- Statements are written from the names as they were given. -/
theorem sql_ofSteps (table : String) (steps : List Step) (call : Call) :
    let given : Scope := { table, clauses := .given steps }
    (Scope.statement { table, clauses := .ofSteps steps } call).sql =
      given.written.spelled Value.mark (given.task call) := by
  intro given
  rw [ofSteps_eq_written, statement_eq, task_written]

/-- A call with blank names comes down to the same task with blank names. -/
theorem task_unnamed (scope : Scope) (call : Call) :
    scope.unnamed.task call.unnamed = (scope.task call).unnamed := by
  cases call with
  | selectFor columns hasTarget => cases hasTarget <;> rfl
  | update assignments =>
      cases assignments with
      | none => rfl
      | some assignments =>
          simp only [Call.unnamed, Option.map_some, task, ColumnMap.isEmpty_unnamed]
          split <;> rfl
  | insert columns records =>
      cases records with
      | nil => rfl
      | cons first rest =>
          have hwhere : scope.unnamed.clauses.hasWhere = scope.clauses.hasWhere :=
            scope.clauses.hasWhere_unnamed
          simp only [Call.unnamed, task, insertTask, List.isEmpty_map, hwhere]
          split
          · rfl
          · split <;> split <;> rfl
  | _ => rfl

end Scope

/-- What a scope says apart from its names and its values: the kinds and the number of predicates,
their connectives and negations, the number of columns, directions, limits and flags. -/
def Scope.outline (scope : Scope) : Scope :=
  scope.unnamed.shape

def Call.outline (call : Call) : Call :=
  call.unnamed.shape

theorem Predicate.symbols_shape (predicate : Predicate) :
    predicate.shape.symbols = predicate.symbols := by
  cases predicate <;> rfl

/-- Symbols belong to the outline. -/
theorem Scope.symbols_outline (scope : Scope) :
    scope.outline.clauses.filter.symbols = scope.clauses.filter.symbols := by
  have hleaves : scope.outline.clauses.filter.leaves =
      scope.clauses.filter.leaves.map fun (_, predicate) => (blank, predicate.shape) := by
    have hfilter : scope.outline.clauses.filter = scope.clauses.filter.unnamed.shape := rfl
    rw [hfilter, Filter.leaves, Filter.shape, Formula.memberLeaves_memberShapes, Filter.unnamed,
      Formula.memberLeaves_unnamed, List.map_map]
    rfl
  rw [Filter.symbols, Filter.symbols, hleaves, List.flatMap_map]
  simp only [Predicate.symbols_shape]

/-- A call on an outline is answered with the text of its task under blank names. -/
theorem Scope.sql_outline (scope : Scope) (call : Call) :
    (scope.outline.written.statement call.outline).sql =
      scope.unnamed.written.spelled Value.mark (scope.task call).unnamed := by
  have hshape : scope.outline.written = scope.unnamed.written.shape := by
    unfold outline written shape Clauses.written Clauses.shape
    rfl
  rw [hshape, Call.outline, sql_statement_shape, statement_eq, task_written, task_unnamed]

end BoundSql
