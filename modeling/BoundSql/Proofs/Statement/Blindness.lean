import BoundSql.Proofs.Statement.Spelling

/-!
The text of a statement does not depend on the values in it. The shape of a piece of data is that
data with every value replaced by null; names, kinds of predicates, negations and the lengths of
lists stay. Where the text of a pattern is to occur is forgotten as well, because it only goes into
a parameter.

Everything between the steps of a caller and the text of a statement commutes with taking shapes.
So two runs whose data have the same shape have the same text, and as many parameters.
-/

namespace BoundSql

/-- What is left of any value in a shape. -/
def Value.blank (_ : Value) : Value := .null

def Predicate.shape : Predicate → Predicate
  | .compare symbol value => .compare symbol value.blank
  | .between lower upper negated => .between lower.blank upper.blank negated
  | .inList values negated => .inList (values.map Value.blank) negated
  | .like value _ negated => .like value.blank .contains negated
  | .isNull negated => .isNull negated

/-- The entries of a map with a function applied to each value. -/
def ColumnMap.map {α β : Type} (f : α → β) (map : ColumnMap α) : ColumnMap β :=
  ⟨map.entries.map fun (key, value) => (key, f value)⟩

def Assignments.shape (assignments : Assignments) : Assignments :=
  ColumnMap.map Value.blank assignments

def Tests.shape (tests : Tests) : Tests :=
  ColumnMap.map Predicate.shape tests

def Step.shape : Step → Step
  | .and column predicate => .and column predicate.shape
  | .or column predicate => .or column predicate.shape
  | .andOptional column predicate => .andOptional column (predicate.map Predicate.shape)
  | .orOptional column predicate => .orOptional column (predicate.map Predicate.shape)
  | .andAnyOf tests => .andAnyOf (Tests.shape tests)
  | .orAllOf tests => .orAllOf (Tests.shape tests)
  | .andExists table tests => .andExists table (Tests.shape tests)
  | .andNotExists table tests => .andNotExists table (Tests.shape tests)
  | .orExists table tests => .orExists table (Tests.shape tests)
  | .orNotExists table tests => .orNotExists table (Tests.shape tests)
  | .onDuplicateKey assignments => .onDuplicateKey (Assignments.shape assignments)
  | .groupBy columns => .groupBy columns
  | .orderBy column direction => .orderBy column direction
  | .limit count => .limit count
  | .offset count => .offset count
  | .forceIndex name => .forceIndex name
  | .forUpdate => .forUpdate

def Call.shape : Call → Call
  | .select columns => .select columns
  | .selectRecord columns => .selectRecord columns
  | .selectFor columns hasTarget => .selectFor columns hasTarget
  | .update assignments => .update (assignments.map Assignments.shape)
  | .delete => .delete
  | .insert columns records => .insert columns (records.map (List.map Value.blank))

namespace Formula

mutual

def shape : Formula → Formula
  | .test connective column predicate => .test connective column predicate.shape
  | .group connective members => .group connective (memberShapes members)
  | .subquery connective table members negated =>
      .subquery connective table (memberShapes members) negated

def memberShapes : List Formula → List Formula
  | [] => []
  | formula :: rest => formula.shape :: memberShapes rest

end

end Formula

def Filter.shape (filter : Filter) : Filter :=
  ⟨Formula.memberShapes filter.members⟩

def Clauses.shape (clauses : Clauses) : Clauses :=
  { clauses with
    filter := clauses.filter.shape
    onDuplicateKey := clauses.onDuplicateKey.map Assignments.shape }

def Scope.shape (scope : Scope) : Scope :=
  { scope with clauses := scope.clauses.shape }

def Task.shape : Task → Task
  | .nothing => .nothing
  | .select columns => .select columns
  | .update assignments => .update (Assignments.shape assignments)
  | .delete => .delete
  | .insertRecords columns records => .insertRecords columns (records.map (List.map Value.blank))
  | .insertIf columns record => .insertIf columns (record.map Value.blank)

/-- Every value is written as the same mark. -/
theorem map_mark_blank (values : List Value) :
    (values.map Value.blank).map Value.mark = values.map Value.mark := by
  rw [List.map_map]
  rfl

/-- Of its values, a predicate shows nothing but their number. -/
theorem Predicate.spelled_shape (predicate : Predicate) (column : String) :
    predicate.shape.spelled Value.mark column = predicate.spelled Value.mark column := by
  cases predicate with
  | compare symbol value => rfl
  | between lower upper negated => rfl
  | inList values negated => rw [shape, spelled, spelled, map_mark_blank]
  | like value wildcard negated => rfl
  | isNull negated => rfl

theorem Predicate.length_operands_shape (predicate : Predicate) :
    predicate.shape.operands.length = predicate.operands.length := by
  cases predicate with
  | compare symbol value => rfl
  | between lower upper negated => rfl
  | inList values negated => exact List.length_map Value.blank
  | like value wildcard negated => rfl
  | isNull negated => rfl

namespace Formula

theorem connective_shape (formula : Formula) : formula.shape.connective = formula.connective := by
  cases formula <;> rfl

mutual

/-- The leaves of a shape are the shapes of the leaves. -/
theorem leaves_shape : ∀ formula : Formula,
    formula.shape.leaves = formula.leaves.map fun (column, predicate) => (column, predicate.shape)
  | .test _ _ _ => rfl
  | .group _ members => memberLeaves_memberShapes members
  | .subquery _ table members _ => by
      rw [shape, leaves, leaves, memberLeaves_memberShapes members]
      split <;> rfl

/-- Members of a shape have the tests of the members, each in its own shape. -/
theorem memberLeaves_memberShapes : ∀ members : List Formula,
    memberLeaves (memberShapes members) =
      (memberLeaves members).map fun (column, predicate) => (column, predicate.shape)
  | [] => rfl
  | formula :: rest => by
      rw [memberShapes, memberLeaves, memberLeaves, leaves_shape formula,
        memberLeaves_memberShapes rest, List.map_append]

end

mutual

theorem body_shape : ∀ formula : Formula,
    formula.shape.body Value.mark = formula.body Value.mark
  | .test _ column predicate => predicate.spelled_shape column
  | .group _ members => by rw [shape, body_group, body_group, survivors_memberShapes members]
  | .subquery _ _ members _ => by rw [shape, body, body, survivors_memberShapes members]

theorem survivors_memberShapes : ∀ members : List Formula,
    survivors Value.mark (memberShapes members) = survivors Value.mark members
  | [] => rfl
  | formula :: rest => by
      rw [memberShapes, survivors, survivors, leaves_shape formula, List.isEmpty_map,
        connective_shape, body_shape formula, survivors_memberShapes rest]

end

theorem memberShapes_append (front back : List Formula) :
    memberShapes (front ++ back) = memberShapes front ++ memberShapes back := by
  induction front with
  | nil => rfl
  | cons formula rest ih => rw [List.cons_append, memberShapes, memberShapes, ih, List.cons_append]

end Formula

namespace Filter

/-- Whether there is a test does not depend on the values. -/
theorem isEmpty_leaves_shape (filter : Filter) :
    filter.shape.leaves.isEmpty = filter.leaves.isEmpty := by
  rw [leaves, leaves, shape, Formula.memberLeaves_memberShapes, List.isEmpty_map]

theorem spelled_shape (filter : Filter) :
    filter.shape.spelled Value.mark = filter.spelled Value.mark := by
  rw [spelled, spelled, shape, Formula.survivors_memberShapes]

theorem length_operands_shape (filter : Filter) :
    filter.shape.operands.length = filter.operands.length := by
  have hleaf : (fun leaf : String × Predicate => leaf.2.shape.operands.length) =
      fun leaf => leaf.2.operands.length := funext fun leaf => leaf.2.length_operands_shape
  rw [operands, operands, shape, Formula.memberOperands, Formula.memberOperands,
    Formula.memberLeaves_memberShapes, List.flatMap_map, List.length_flatMap, List.length_flatMap]
  exact congrArg (fun length => ((Formula.memberLeaves filter.members).map length).sum) hleaf

theorem shape_append (filter : Filter) (formula : Formula) :
    (filter.append formula).shape = filter.shape.append formula.shape := by
  rw [shape, members_append, Formula.memberShapes_append]
  rfl

end Filter

theorem ColumnMap.isEmpty_map {α β : Type} (f : α → β) (map : ColumnMap α) :
    (map.map f).isEmpty = map.isEmpty :=
  List.isEmpty_map

/-- The formulas made of a map of tests have the shapes of these formulas. -/
theorem Tests.formulas_shape (tests : Tests) (connective : Connective) :
    (Tests.shape tests).formulas connective = Formula.memberShapes (tests.formulas connective) := by
  obtain ⟨entries⟩ := tests
  induction entries with
  | nil => rfl
  | cons entry rest ih => exact congrArg (entry.2.shape.on connective entry.1 :: ·) ih

namespace Clauses

theorem shape_add (clauses : Clauses) (formula : Formula) :
    (clauses.add formula).shape = clauses.shape.add formula.shape := by
  rw [shape, add, Filter.shape_append]
  rfl

/-- A group is added to a shape as it is to the clauses, and left out where it is left out there. -/
theorem shape_addGroup (clauses : Clauses) (connective : Connective) (tests : Tests) :
    (clauses.addGroup connective tests).shape =
      clauses.shape.addGroup connective (Tests.shape tests) := by
  have hempty : (Tests.shape tests).isEmpty = tests.isEmpty := ColumnMap.isEmpty_map _ tests
  rw [addGroup, addGroup, hempty, Tests.formulas_shape]
  split
  · rfl
  · exact shape_add clauses _

theorem shape_addSubquery (clauses : Clauses) (connective : Connective) (negated : Bool)
    (table : String) (tests : Tests) :
    (clauses.addSubquery connective negated table tests).shape =
      clauses.shape.addSubquery connective negated table (Tests.shape tests) := by
  have hempty : (Tests.shape tests).isEmpty = tests.isEmpty := ColumnMap.isEmpty_map _ tests
  rw [addSubquery, addSubquery, hempty, Tests.formulas_shape]
  split
  · rfl
  · exact shape_add clauses _

/-- A step on a shape is the shape of the step. -/
theorem shape_step (clauses : Clauses) (next : Step) :
    (clauses.step next).shape = clauses.shape.step next.shape := by
  cases next with
  | and column predicate => exact clauses.shape_add _
  | or column predicate => exact clauses.shape_add _
  | andOptional column predicate =>
      cases predicate with
      | none => rfl
      | some predicate => exact clauses.shape_add _
  | orOptional column predicate =>
      cases predicate with
      | none => rfl
      | some predicate => exact clauses.shape_add _
  | andAnyOf tests => exact clauses.shape_addGroup .and tests
  | orAllOf tests => exact clauses.shape_addGroup .or tests
  | andExists table tests => exact clauses.shape_addSubquery .and false table tests
  | andNotExists table tests => exact clauses.shape_addSubquery .and true table tests
  | orExists table tests => exact clauses.shape_addSubquery .or false table tests
  | orNotExists table tests => exact clauses.shape_addSubquery .or true table tests
  | groupBy columns => rfl
  | orderBy column direction => rfl
  | limit count => rfl
  | offset count => rfl
  | forceIndex name => rfl
  | onDuplicateKey assignments => rfl
  | forUpdate => rfl

/-- So is a run of steps. -/
theorem shape_ofSteps (steps : List Step) :
    (ofSteps steps).shape = ofSteps (steps.map Step.shape) := by
  have hrun (clauses : Clauses) :
      (steps.foldl step clauses).shape = (steps.map Step.shape).foldl step clauses.shape := by
    induction steps generalizing clauses with
    | nil => rfl
    | cons next rest ih => rw [List.foldl_cons, ih, shape_step, List.map_cons, List.foldl_cons]
  exact hrun {}

theorem spelledWhere_shape (clauses : Clauses) :
    clauses.shape.spelledWhere Value.mark = clauses.spelledWhere Value.mark := by
  have hfilter : clauses.shape.filter = clauses.filter.shape := rfl
  rw [spelledWhere, spelledWhere, hfilter, Filter.isEmpty_leaves_shape, Filter.spelled_shape]

end Clauses

/-- Assignments show their columns, and of their values nothing but the marks. -/
theorem spelledAssignments_shape (assignments : Assignments) :
    spelledAssignments Value.mark (Assignments.shape assignments) =
      spelledAssignments Value.mark assignments := by
  rw [spelledAssignments, spelledAssignments, Assignments.shape, ColumnMap.map, List.map_map]
  rfl

theorem length_assignedValues_shape (assignments : Assignments) :
    (assignedValues (Assignments.shape assignments)).length =
      (assignedValues assignments).length := by
  simp [assignedValues, Assignments.shape, ColumnMap.map]

namespace Clauses

theorem spelledOnDuplicateKey_shape (clauses : Clauses) :
    clauses.shape.spelledOnDuplicateKey Value.mark = clauses.spelledOnDuplicateKey Value.mark := by
  have hduplicate : clauses.shape.onDuplicateKey =
      clauses.onDuplicateKey.map Assignments.shape := rfl
  rw [spelledOnDuplicateKey, spelledOnDuplicateKey, hduplicate]
  cases clauses.onDuplicateKey with
  | none => rfl
  | some assignments =>
      have hempty : (Assignments.shape assignments).isEmpty = assignments.isEmpty :=
        ColumnMap.isEmpty_map Value.blank assignments
      simp only [Option.map_some, hempty, spelledAssignments_shape]

theorem length_duplicateKeyValues_shape (clauses : Clauses) :
    clauses.shape.duplicateKeyValues.length = clauses.duplicateKeyValues.length := by
  have hduplicate : clauses.shape.onDuplicateKey =
      clauses.onDuplicateKey.map Assignments.shape := rfl
  rw [duplicateKeyValues, duplicateKeyValues, hduplicate]
  cases clauses.onDuplicateKey with
  | none => rfl
  | some assignments => exact length_assignedValues_shape assignments

/-- Whether an insertion has a condition, and so which form it takes, is told by the shape. -/
theorem hasWhere_shape (clauses : Clauses) : clauses.shape.hasWhere = clauses.hasWhere := by
  have hfilter : clauses.shape.filter = clauses.filter.shape := rfl
  rw [hasWhere, hasWhere, hfilter, Filter.isEmpty_eq_isEmpty_leaves, Filter.isEmpty_leaves_shape,
    ← Filter.isEmpty_eq_isEmpty_leaves]

end Clauses

namespace Scope

/-- Lengths of records decide what an insertion comes to, and a shape keeps them. -/
private theorem insertTask_shape (scope : Scope) (columns : List String)
    (records : List (List Value)) :
    scope.shape.insertTask columns (records.map (List.map Value.blank)) =
      (scope.insertTask columns records).shape := by
  cases records with
  | nil => rfl
  | cons first rest =>
      have hwhere : scope.shape.clauses.hasWhere = scope.clauses.hasWhere :=
        scope.clauses.hasWhere_shape
      have hany : ((first :: rest).map (List.map Value.blank)).any List.isEmpty =
          (first :: rest).any List.isEmpty := by
        rw [List.any_map]
        exact congrArg (List.any (first :: rest)) (funext fun record => List.isEmpty_map)
      rw [List.map_cons] at hany ⊢
      rw [insertTask, insertTask, hwhere, hany, List.isEmpty_map]
      by_cases hcolumns : columns.isEmpty
      · rw [if_pos hcolumns, if_pos hcolumns]
        rfl
      · rw [if_neg hcolumns, if_neg hcolumns]
        split <;> split <;> rfl

/-- Two calls of one shape come down to tasks of one shape. -/
theorem task_shape (scope : Scope) (call : Call) :
    scope.shape.task call.shape = (scope.task call).shape := by
  cases call with
  | select columns => rfl
  | selectRecord columns => rfl
  | selectFor columns hasTarget => cases hasTarget <;> rfl
  | update assignments =>
      cases assignments with
      | none => rfl
      | some assignments =>
          have hempty : (Assignments.shape assignments).isEmpty = assignments.isEmpty :=
            ColumnMap.isEmpty_map Value.blank assignments
          change (if (Assignments.shape assignments).isEmpty then Task.nothing
            else .update (Assignments.shape assignments)) =
              (if assignments.isEmpty then Task.nothing else .update assignments).shape
          rw [hempty]
          split <;> rfl
  | delete => rfl
  | insert columns records => exact scope.insertTask_shape columns records

theorem spelled_shape (scope : Scope) (task : Task) :
    scope.shape.spelled Value.mark task.shape = scope.spelled Value.mark task := by
  have hwhere : scope.shape.clauses.spelledWhere Value.mark =
      scope.clauses.spelledWhere Value.mark := scope.clauses.spelledWhere_shape
  have hduplicate : scope.shape.clauses.spelledOnDuplicateKey Value.mark =
      scope.clauses.spelledOnDuplicateKey Value.mark := scope.clauses.spelledOnDuplicateKey_shape
  cases task with
  | nothing => rfl
  | select columns =>
      rw [Task.shape, spelled, spelled, hwhere]
      rfl
  | update assignments =>
      rw [Task.shape, spelled, spelled, hwhere, spelledAssignments_shape]
      rfl
  | delete =>
      rw [Task.shape, spelled, spelled, hwhere]
      rfl
  | insertRecords columns records =>
      have hrow : spelledRow Value.mark ∘ List.map Value.blank = spelledRow Value.mark :=
        funext fun record => by
          rw [Function.comp_apply, spelledRow, spelledRow, map_mark_blank]
      rw [Task.shape, spelled, spelled, hduplicate, List.map_map, hrow]
      rfl
  | insertIf columns record =>
      rw [Task.shape, spelled, spelled, hwhere, map_mark_blank]
      rfl

theorem length_operands_shape (scope : Scope) (task : Task) :
    (scope.shape.operands task.shape).length = (scope.operands task).length := by
  have hfilter : scope.shape.clauses.filter.operands.length =
      scope.clauses.filter.operands.length := scope.clauses.filter.length_operands_shape
  cases task with
  | nothing => rfl
  | select columns => exact hfilter
  | update assignments =>
      rw [Task.shape, operands, operands, List.length_append, List.length_append, hfilter,
        length_assignedValues_shape]
  | delete => exact hfilter
  | insertRecords columns records =>
      have hduplicate : scope.shape.clauses.duplicateKeyValues.length =
          scope.clauses.duplicateKeyValues.length := scope.clauses.length_duplicateKeyValues_shape
      rw [Task.shape, operands, operands, List.length_append, List.length_append, hduplicate,
        ← List.map_flatten, List.length_map]
  | insertIf columns record =>
      rw [Task.shape, operands, operands, List.length_append, List.length_append, hfilter,
        List.length_map]

/-- A call on a shape is answered with the same text as the call itself. -/
theorem sql_statement_shape (scope : Scope) (call : Call) :
    (scope.shape.statement call.shape).sql = (scope.statement call).sql := by
  rw [statement_eq, statement_eq, task_shape]
  exact scope.spelled_shape (scope.task call)

/-- It is also answered with as many parameters. -/
theorem length_params_statement_shape (scope : Scope) (call : Call) :
    (scope.shape.statement call.shape).params.length = (scope.statement call).params.length := by
  rw [statement_eq, statement_eq, task_shape]
  exact scope.length_operands_shape (scope.task call)

end Scope

/-- Values never get into the text: the same steps and the same call, up to the values in them, give
the same text and as many parameters. So both runs are answered with a statement, or neither is. -/
theorem statement_blind_to_values (table : String) (steps steps' : List Step) (call call' : Call)
    (hsteps : steps.map Step.shape = steps'.map Step.shape) (hcall : call.shape = call'.shape) :
    let statement := Scope.statement { table, clauses := .ofSteps steps } call
    let statement' := Scope.statement { table, clauses := .ofSteps steps' } call'
    statement.sql = statement'.sql ∧ statement.params.length = statement'.params.length ∧
      statement.isEmpty = statement'.isEmpty := by
  intro statement statement'
  have hscope : Scope.shape { table, clauses := .ofSteps steps } =
      Scope.shape { table, clauses := .ofSteps steps' } := by
    rw [Scope.shape, Scope.shape, Clauses.shape_ofSteps, Clauses.shape_ofSteps, hsteps]
  have hstatement : Scope.statement (Scope.shape { table, clauses := .ofSteps steps }) call.shape =
      Scope.statement (Scope.shape { table, clauses := .ofSteps steps' }) call'.shape := by
    rw [hscope, hcall]
  have hsql : statement.sql = statement'.sql := by
    have hshape := congrArg Statement.sql hstatement
    rwa [Scope.sql_statement_shape, Scope.sql_statement_shape] at hshape
  have hlength : statement.params.length = statement'.params.length := by
    have hshape := congrArg (fun answer => answer.params.length) hstatement
    rwa [Scope.length_params_statement_shape, Scope.length_params_statement_shape] at hshape
  exact ⟨hsql, hlength, congrArg String.isEmpty hsql⟩

/-- Two runs that differ in every value, also in that of a pattern. -/
theorem statement_blind_to_pattern_and_record :
    let steps : List Step :=
      [.and "name" (.like (.text "a' OR '1'='1") .contains false), .or "id" (.inList [.null] true)]
    let steps' : List Step :=
      [.and "name" (.like (.bool true) .contains false), .or "id" (.inList [.text "?"] true)]
    let call : Call := .insert ["a", "b"] [[.null, .text "`"]]
    let call' : Call := .insert ["a", "b"] [[.bool false, .null]]
    (steps.map Step.shape = steps'.map Step.shape ∧ call.shape = call'.shape) ∧
      (Scope.statement { table := "user", clauses := .ofSteps steps } call).sql =
        (Scope.statement { table := "user", clauses := .ofSteps steps' } call').sql :=
  ⟨⟨rfl, rfl⟩, (statement_blind_to_values "user" _ _ _ _ rfl rfl).1⟩

end BoundSql
