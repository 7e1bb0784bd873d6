import BoundSql.Proofs.Statement.Filling
import BoundSql.Proofs.Statement.Outline

/-!
How many question marks a statement has. Every value that is bound accounts for one. All others come
from the outside: from names, in which they are kept whether or not the name is quoted, and from
symbols that a caller has made up. Each name counts as often as it is written, so the number of
question marks is that of the parameters just when no name has one.

Every way of putting a text together has an equation for the number of its question marks; the
equation for a statement is their sum.
-/

namespace BoundSql

/-- The number of question marks in a text. -/
def marks (text : String) : Nat :=
  text.toList.count '?'

/-- The number of question marks in some texts. A text that is listed twice counts twice. -/
def marksIn (texts : List String) : Nat :=
  (texts.map marks).sum

@[simp]
theorem marks_append (front back : String) : marks (front ++ back) = marks front + marks back := by
  simp [marks]

@[simp]
theorem marksIn_nil : marksIn [] = 0 :=
  rfl

@[simp]
theorem marksIn_cons (text : String) (rest : List String) :
    marksIn (text :: rest) = marks text + marksIn rest := by
  simp [marksIn]

@[simp]
theorem marksIn_append (front back : List String) :
    marksIn (front ++ back) = marksIn front + marksIn back := by
  simp [marksIn]

theorem marks_eq_zero_iff {text : String} : marks text = 0 ↔ Markless text :=
  List.count_eq_zero

theorem marks_of_markless {text : String} (h : Markless text) : marks text = 0 :=
  marks_eq_zero_iff.mpr h

theorem marksIn_eq_zero_iff {texts : List String} :
    marksIn texts = 0 ↔ ∀ text ∈ texts, Markless text := by
  induction texts with
  | nil => simp
  | cons text rest ih => simp [marks_eq_zero_iff, ih]

/-- Texts that are joined keep their question marks. -/
theorem marks_intercalate {separator : String} (hseparator : Markless separator)
    (texts : List String) : marks (separator.intercalate texts) = marksIn texts := by
  induction texts with
  | nil => rfl
  | cons text rest ih =>
      cases rest with
      | nil => simp
      | cons next rest =>
          rw [String.intercalate_cons_cons, marks_append, marks_append,
            marks_of_markless hseparator, ih, Nat.add_zero, ← marksIn_cons]

@[simp]
theorem marks_mark (value : Value) : marks value.mark = 1 := by
  rw [marks, Value.toList_mark]
  rfl

/-- What is dropped in front does not change the number of characters that are kept. -/
private theorem count_dropWhile {drop : Char → Bool} {c : Char} (hkeep : drop c = false)
    (chars : List Char) : (chars.dropWhile drop).count c = chars.count c := by
  have hfront : (chars.takeWhile drop).count c = 0 := by
    rw [List.count_eq_zero]
    intro hmem
    rw [List.mem_takeWhile_imp hmem] at hkeep
    cases hkeep
  have hsplit := congrArg (List.count c) (List.takeWhile_append_dropWhile (p := drop) (l := chars))
  rw [List.count_append, hfront, Nat.zero_add] at hsplit
  exact hsplit

/-- Trimming keeps all question marks, as long as it keeps a single one. -/
private theorem marks_trimEnds {drop : Char → Bool} (hkeep : drop '?' = false) (text : String) :
    marks (Text.trimEnds drop text) = marks text := by
  rw [marks, marks, Text.trimEnds, String.toList_ofList, List.count_reverse,
    count_dropWhile hkeep, List.count_reverse, count_dropWhile hkeep]

/-- Quoting a name neither takes a question mark from it nor adds one. -/
@[simp]
theorem marks_quote (name : String) : marks (Identifier.quote name) = marks name := by
  have htrim : marks (Text.trimEnds (· == Identifier.mark) name) = marks name :=
    marks_trimEnds (by decide) name
  have hmark : marks (String.singleton Identifier.mark) = 0 := by decide
  unfold Identifier.quote
  split
  · rfl
  · rw [marks_append, marks_append, htrim, hmark, Nat.zero_add, Nat.add_zero]

/-- Names have as many question marks in a text as by themselves, whether or not they are quoted. -/
theorem marksIn_map_quote (names : List String) :
    marksIn (names.map Identifier.quote) = marksIn names := by
  rw [marksIn, marksIn, List.map_map]
  congr 2
  exact funext marks_quote

@[simp]
theorem marks_quoteList (names : List String) :
    marks (Identifier.quoteList names) = marksIn names := by
  rw [Identifier.quoteList, marks_intercalate (by decide), marksIn_map_quote]

@[simp]
theorem marks_negation (negated : Bool) : marks (negation negated) = 0 :=
  marks_of_markless (markless_negation negated)

@[simp]
theorem marks_connective (connective : Connective) : marks connective.text = 0 :=
  marks_of_markless (markless_connective connective)

/-- A list of values has a question mark for each of them. -/
@[simp]
theorem marks_marks (values : List Value) :
    marks (",".intercalate (values.map Value.mark)) = values.length := by
  rw [marks_intercalate (by decide)]
  induction values with
  | nil => rfl
  | cons value rest ih => simp [ih, Nat.add_comm]

/-- The column of a predicate counts, and so does a symbol that is made up. -/
theorem Predicate.marks_spelled (predicate : Predicate) (column : String) :
    marks (predicate.spelled Value.mark column) =
      predicate.operands.length + marks column + marksIn predicate.symbols := by
  cases predicate with
  | compare symbol value => simp [spelled, operands, symbols]; omega
  | between lower upper negated =>
      simp (disch := decide) [spelled, operands, symbols, marks_of_markless]; omega
  | inList values negated =>
      simp (disch := decide) [spelled, operands, symbols, marks_of_markless]; omega
  | like value wildcard negated =>
      simp (disch := decide) [spelled, operands, symbols, marks_of_markless]; omega
  | isNull negated =>
      simp (disch := decide) [spelled, operands, symbols, marks_of_markless]

/-- The symbols of the comparisons among some leaves. -/
def leafSymbols (leaves : List (String × Predicate)) : List String :=
  leaves.flatMap fun (_, predicate) => predicate.symbols

theorem leafSymbols_append (front back : List (String × Predicate)) :
    leafSymbols (front ++ back) = leafSymbols front ++ leafSymbols back :=
  List.flatMap_append

namespace Formula

mutual

/-- The operands of a formula have a question mark each. The rest is in its names and symbols. -/
theorem marks_body : ∀ formula : Formula, formula.leaves ≠ [] →
    marks (formula.body Value.mark) =
      formula.operands.length + marksIn formula.names + marksIn (leafSymbols formula.leaves)
  | .test connective column predicate, _ => by
      have hpredicate := predicate.marks_spelled column
      simpa [body, operands, leaves, names, leafSymbols] using hpredicate
  | .group connective members, _ => by
      have hjoined := (marks_members members).1
      have hparentheses (text : String) : marks ("(" ++ text ++ ")") = marks text := by
        simp (disch := decide) [marks_of_markless]
      rw [body_group]
      split
      · exact hjoined
      · rw [hparentheses]
        exact hjoined
  | .subquery connective table members negated, hleaves => by
      cases htable : table.isEmpty with
      | true =>
          exact absurd (leaves_subquery_without_table htable connective members negated) hleaves
      | false =>
          have hmembers := leaves_subquery htable connective members negated
          rw [hmembers] at hleaves
          have hjoined := (marks_members members).1
          have hoperands : (subquery connective table members negated).operands =
              memberOperands members := by rw [operands, hmembers, memberOperands]
          rw [body, hoperands, names_subquery htable hleaves, hmembers]
          simp (disch := decide) only [marks_append, marks_of_markless, marks_negation,
            marks_quote, marksIn_cons, hjoined]
          omega

/-- The question marks of members, whether or not the connective of the first is written. -/
theorem marks_members : ∀ members : List Formula,
    marks (joined (survivors Value.mark members)) =
        (memberOperands members).length + marksIn (memberNames members) +
          marksIn (leafSymbols (memberLeaves members)) ∧
      marks (continued (survivors Value.mark members)) =
        (memberOperands members).length + marksIn (memberNames members) +
          marksIn (leafSymbols (memberLeaves members))
  | [] => ⟨rfl, rfl⟩
  | formula :: rest => by
      have hrest := (marks_members rest).2
      rw [memberOperands_cons, memberNames, memberLeaves, leafSymbols_append]
      by_cases hleaves : formula.leaves = []
      · rw [survivors_cons_of_leaves_eq_nil _ hleaves, operands_of_leaves_eq_nil hleaves,
          names_of_leaves_eq_nil formula hleaves, hleaves]
        exact marks_members rest
      · have hbody := marks_body formula hleaves
        rw [survivors_cons_of_leaves_ne_nil _ hleaves, joined, continued]
        simp (disch := decide) only [marks_append, marks_of_markless, marks_connective, hbody,
          hrest, List.length_append, marksIn_append]
        omega

end

end Formula

@[simp]
theorem marks_spacedClauses (clauses : List String) :
    marks (spacedClauses clauses) = marksIn clauses := by
  induction clauses with
  | nil => rfl
  | cons clause rest ih =>
      have hspace : marks " " = 0 := by decide
      by_cases hclause : clause = ""
      · have hnone : marks "" = 0 := rfl
        simp [spacedClauses, hclause, hnone, ih]
      · simp [spacedClauses, hclause, hspace, ih]

/-- No clause gains a question mark from the spaces around it. -/
@[simp]
theorem marks_appendClauses (head : String) (clauses : List String) :
    marks (appendClauses head clauses) = marks head + marksIn clauses := by
  rw [appendClauses_eq, marks_append, marks_spacedClauses]

/-- Assignments have a question mark for each value, and those of their columns. -/
@[simp]
theorem marks_spelledAssignments (assignments : Assignments) :
    marks (spelledAssignments Value.mark assignments) =
      (assignedValues assignments).length + marksIn assignments.keys := by
  rw [spelledAssignments, marks_intercalate (by decide), assignedValues, ColumnMap.keys]
  induction assignments.entries with
  | nil => rfl
  | cons entry rest ih =>
      have hequals : marks "=" = 0 := by decide
      simp only [List.map_cons, marksIn_cons, marks_append, marks_quote, marks_mark, hequals, ih,
        List.length_cons]
      omega

namespace Clauses

@[simp]
theorem marks_forceIndexText (clauses : Clauses) :
    marks clauses.forceIndexText = marksIn clauses.forceIndex.toList := by
  rw [forceIndexText]
  cases clauses.forceIndex with
  | none => rfl
  | some name => simp (disch := decide) [marks_of_markless]

/-- Without a test the clause is missing, and then there is nothing to count. -/
@[simp]
theorem marks_spelledWhere (clauses : Clauses) :
    marks (clauses.spelledWhere Value.mark) =
      clauses.filter.operands.length + marksIn clauses.filter.names +
        marksIn clauses.filter.symbols := by
  have hfilter : marks (clauses.filter.spelled Value.mark) = _ :=
    (Formula.marks_members clauses.filter.members).1
  have hkeyword : marks "WHERE " = 0 := by decide
  rw [spelledWhere]
  by_cases hleaves : clauses.filter.leaves = []
  · rw [clauses.filter.spelled_of_leaves_eq_nil Value.mark hleaves] at hfilter
    rw [if_pos (by simp [hleaves])]
    exact hfilter
  · rw [if_neg (by simp [hleaves]), marks_append, hkeyword, hfilter, Nat.zero_add]
    rfl

@[simp]
theorem marks_groupByText (clauses : Clauses) :
    marks clauses.groupByText = marksIn clauses.groupBy := by
  have hkeyword : marks "GROUP BY " = 0 := by decide
  rw [groupByText]
  by_cases hgroup : clauses.groupBy = []
  · rw [hgroup]
    rfl
  · simp [hgroup, hkeyword]

/-- Columns to sort by are counted in their written form. -/
@[simp]
theorem marks_orderByText (clauses : Clauses) :
    marks clauses.orderByText = marksIn clauses.sortColumns := by
  have hkeyword : marks "ORDER BY " = 0 := by decide
  have hkey (key : SortKey) : marks key.text = marks key.column := by
    rw [SortKey.text]
    cases key.direction <;> simp (disch := decide) [marks_of_markless]
  rw [orderByText, sortColumns]
  by_cases horder : clauses.orderBy = []
  · rw [horder]
    rfl
  · rw [if_neg (by simp [horder]), marks_append, hkeyword, Nat.zero_add,
      marks_intercalate (by decide), marksIn, marksIn, List.map_map, List.map_map]
    simp [Function.comp_def, hkey]

@[simp]
theorem marks_limitText (clauses : Clauses) : marks clauses.limitText = 0 :=
  marks_of_markless clauses.markless_limitText

@[simp]
theorem marks_offsetText (clauses : Clauses) : marks clauses.offsetText = 0 :=
  marks_of_markless clauses.markless_offsetText

@[simp]
theorem marks_forUpdateText (clauses : Clauses) : marks clauses.forUpdateText = 0 :=
  marks_of_markless clauses.markless_forUpdateText

@[simp]
theorem marks_spelledOnDuplicateKey (clauses : Clauses) :
    marks (clauses.spelledOnDuplicateKey Value.mark) =
      clauses.duplicateKeyValues.length + marksIn clauses.duplicateKeyColumns := by
  have hkeyword : marks "ON DUPLICATE KEY UPDATE " = 0 := by decide
  rw [spelledOnDuplicateKey, duplicateKeyValues, duplicateKeyColumns]
  cases clauses.onDuplicateKey with
  | none => rfl
  | some assignments =>
      change marks (if assignments.isEmpty then "" else _) =
        (assignedValues assignments).length + marksIn assignments.keys
      by_cases hempty : assignments.isEmpty
      · have hentries : assignments.entries = [] := List.isEmpty_iff.mp hempty
        rw [if_pos hempty, assignedValues, ColumnMap.keys, hentries]
        rfl
      · rw [if_neg hempty, marks_append, hkeyword, marks_spelledAssignments, Nat.zero_add]

end Clauses

namespace Scope

/-- The symbols of the comparisons in the text of a task. -/
def symbols (scope : Scope) : Task → List String
  | .nothing | .insertRecords _ _ => []
  | .select _ | .update _ | .delete | .insertIf _ _ => scope.clauses.filter.symbols

/-- A task has no symbols but those in the condition of its scope. -/
theorem forall_mem_symbols (scope : Scope) {P : String → Prop}
    (h : ∀ symbol ∈ scope.clauses.filter.symbols, P symbol) (task : Task) :
    ∀ symbol ∈ scope.symbols task, P symbol := by
  cases task with
  | nothing | insertRecords => exact nofun
  | select | update | delete | insertIf => exact h

@[simp]
theorem marks_insertHead (scope : Scope) (columns : List String) :
    marks (scope.insertHead columns) = marksIn (scope.table :: columns) := by
  unfold insertHead
  simp (disch := decide) [marks_of_markless]

/-- Records are all question marks but for parentheses and commas. -/
@[simp]
theorem marks_rows (records : List (List Value)) :
    marks (", ".intercalate (records.map (spelledRow Value.mark))) = records.flatten.length := by
  have hrow (record : List Value) : marks (spelledRow Value.mark record) = record.length := by
    rw [spelledRow]
    simp (disch := decide) [marks_of_markless]
  rw [marks_intercalate (by decide)]
  induction records with
  | nil => rfl
  | cons record rest ih => simp [hrow, ih]

/-- A task has a question mark for each of its operands, and those in its names and symbols. -/
theorem marks_spelled (scope : Scope) (task : Task) :
    marks (scope.spelled Value.mark task) =
      (scope.operands task).length + marksIn (scope.names task) +
        marksIn (scope.symbols task) := by
  cases task with
  | nothing => rfl
  | select columns =>
      have hcolumns : marks (if columns.isEmpty then "*" else Identifier.quoteList columns) =
          marksIn columns := by
        cases columns with
        | nil => rfl
        | cons column rest => exact marks_quoteList (column :: rest)
      rw [spelled, marks_appendClauses, marks_append, marks_append, marks_append, hcolumns]
      simp (disch := decide) [operands, names, symbols, marks_of_markless]
      omega
  | update assignments =>
      simp (disch := decide) [spelled, operands, names, symbols, marks_of_markless]
      omega
  | delete =>
      simp (disch := decide) [spelled, operands, names, symbols, marks_of_markless]
      omega
  | insertRecords columns records =>
      simp (disch := decide) [spelled, operands, names, symbols, marks_of_markless]
      omega
  | insertIf columns record =>
      simp (disch := decide) [spelled, operands, names, symbols, marks_of_markless]
      omega

/-- Columns to sort by keep their question marks when they are quoted. -/
theorem marksIn_names_written (scope : Scope) (task : Task) :
    marksIn (scope.written.names task) = marksIn (scope.names task) := by
  have hsort : marksIn scope.written.clauses.sortColumns = marksIn scope.clauses.sortColumns := by
    have hkeys : scope.written.clauses.sortColumns =
        scope.clauses.sortColumns.map Identifier.quote := by
      simp [written, Clauses.written, Clauses.sortColumns, SortKey.written]
    rw [hkeys, marksIn_map_quote]
  cases task with
  | nothing => rfl
  | select columns => simp only [names, marksIn_append, hsort]; rfl
  | update assignments => simp only [names, marksIn_append, hsort]; rfl
  | delete => simp only [names, marksIn_append, hsort]; rfl
  | insertRecords columns records => rfl
  | insertIf columns record => rfl

end Scope

/-- The question marks of a statement are its parameters and those within its names, each name
counted as often as it is written, for every sequence of steps, every call and all names. So there
are as many as parameters just when no name in the text has one. A symbol that is made up by the
caller counts like a name; predicates that are made by the named comparisons bring no question mark
along (`Clauses.forall_mem_symbols_ofSteps`). -/
theorem placeholderCount_eq_params_add_marks (table : String) (steps : List Step) (call : Call) :
    let given : Scope := { table, clauses := .given steps }
    let statement := Scope.statement { table, clauses := .ofSteps steps } call
    let names := given.names (given.task call)
    let symbols := given.symbols (given.task call)
    statement.placeholderCount = statement.params.length + marksIn names + marksIn symbols ∧
      ((∀ symbol ∈ symbols, Markless symbol) →
        statement.placeholderCount = statement.params.length + marksIn names ∧
          (statement.placeholderCount = statement.params.length ↔
            ∀ name ∈ names, Markless name)) := by
  intro given statement names symbols
  have hcount : statement.placeholderCount =
      statement.params.length + marksIn names + marksIn symbols := by
    have htext := given.written.marks_spelled (given.task call)
    rw [given.marksIn_names_written] at htext
    have hstatement : statement = ⟨given.written.spelled Value.mark (given.task call),
        given.written.operands (given.task call)⟩ := by
      unfold statement
      rw [Scope.ofSteps_eq_written, Scope.statement_eq, Scope.task_written]
    rw [hstatement]
    exact htext
  refine ⟨hcount, ?_⟩
  intro hsymbols
  have hnone : marksIn symbols = 0 := marksIn_eq_zero_iff.mpr hsymbols
  rw [hnone, Nat.add_zero] at hcount
  refine ⟨hcount, ?_⟩
  rw [hcount, ← marksIn_eq_zero_iff]
  omega

/-- Expressions that are written as they stand bring their question marks along, one of them twice;
a subquery without a table leaves none. -/
theorem placeholderCount_of_select_with_expressions :
    let steps : List Step :=
      [.andAnyOf (.ofPairs [("name", .like (.text "?") .contains false), ("f(?)", .eq (.int 1))]),
        .orExists "" (.ofPairs [("?", .inList [.null, .null] true)]),
        .orderBy "f(?)" .descending]
    let given : Scope := { table := "user", clauses := .given steps }
    let statement :=
      Scope.statement { table := "user", clauses := .ofSteps steps } (.select ["id", "?"])
    (∀ symbol ∈ given.symbols (.select ["id", "?"]), Markless symbol) ∧
      statement.placeholderCount = statement.params.length + 3 := by
  intro steps given statement
  have hsymbols : ∀ symbol ∈ given.symbols (.select ["id", "?"]), Markless symbol :=
    given.forall_mem_symbols (Clauses.forall_mem_symbols_ofSteps (by decide) (by decide)) _
  have hnames : marksIn (given.names (.select ["id", "?"])) = 3 := by decide
  have hcount := ((placeholderCount_eq_params_add_marks "user" steps (.select ["id", "?"])).2
    hsymbols).1
  rw [← hnames]
  exact ⟨hsymbols, hcount⟩

end BoundSql
