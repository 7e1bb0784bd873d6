import BoundSql.Proofs.Clauses.Tests
import BoundSql.Proofs.Formula.NormalForm
import BoundSql.Proofs.Identifier.Runs
import BoundSql.Proofs.Statement.Outline

/-!
Names stay between their marks. As long as all names in a statement are plain, its quoted runs are
these names in the order of the text, and its frame, which is the text with nothing between the
marks, does not depend on the names: it is the text of the outline of the statement.
-/

namespace BoundSql

open Identifier (blank Framed Unquoted IsPlain)

theorem unquoted_intercalate {separator : String} (hseparator : Unquoted separator)
    {texts : List String} (h : ∀ text ∈ texts, Unquoted text) :
    Unquoted (separator.intercalate texts) :=
  Text.notMem_intercalate hseparator h

/-- A list of placeholders has nothing quoted in it. -/
theorem unquoted_marks (values : List Value) :
    Unquoted (",".intercalate (values.map Value.mark)) := by
  apply unquoted_intercalate (by decide)
  intro text htext
  obtain ⟨value, _, rfl⟩ := List.mem_map.mp htext
  rw [Unquoted, Value.toList_mark]
  decide

@[simp]
theorem unquoted_negation (negated : Bool) : Unquoted (negation negated) := by
  cases negated <;> decide

@[simp]
theorem unquoted_connective (connective : Connective) : Unquoted connective.text := by
  cases connective <;> decide

/-- What stands after the column of a predicate. -/
theorem Predicate.unquoted_tail (predicate : Predicate)
    (hsymbols : ∀ symbol ∈ predicate.symbols, Unquoted symbol) :
    Unquoted (predicate.normal.form.opening ++ predicate.normal.closing) := by
  cases predicate with
  | compare symbol value =>
      have hsymbol : Unquoted symbol := hsymbols symbol List.mem_cons_self
      simp +decide [normal, NormalTest.form, NormalTest.closing, TestForm.opening, hsymbol]
  | inList values negated =>
      simp +decide [normal, NormalTest.form, NormalTest.closing, TestForm.opening, unquoted_marks]
  | _ => simp +decide [normal, NormalTest.form, NormalTest.closing, TestForm.opening]

/-- The column is the only name in a predicate, at the very beginning. -/
theorem Predicate.framed_spelled (predicate : Predicate) {column : String}
    (hcolumn : IsPlain column) (hsymbols : ∀ symbol ∈ predicate.symbols, Unquoted symbol) :
    Framed (predicate.spelled Value.mark column) [column] (predicate.spelled Value.mark blank) := by
  rw [← text_normal, ← text_normal, NormalTest.text, NormalTest.text, String.append_assoc,
    String.append_assoc]
  exact (Identifier.framed_quote hcolumn).before (predicate.unquoted_tail hsymbols)

mutual

/-- The names of a formula stand between the marks of its text, tables included. A test that is left
out has no name in the text. -/
theorem Formula.framed_body : ∀ formula : Formula, formula.leaves ≠ [] →
    (∀ name ∈ formula.names, IsPlain name) →
    (∀ leaf ∈ formula.leaves, ∀ symbol ∈ leaf.2.symbols, Unquoted symbol) →
    Framed (formula.body Value.mark) formula.names (formula.unnamed.body Value.mark)
  | .test connective column predicate, _, hnames, hsymbols =>
      predicate.framed_spelled (hnames column List.mem_cons_self)
        (hsymbols (column, predicate) List.mem_cons_self)
  | .group connective members, _, hnames, hsymbols => by
      have hjoined := (Formula.framed_members members hnames hsymbols).1
      rw [Formula.unnamed, Formula.body_group, Formula.body_group,
        Formula.length_survivors_unnamed]
      split
      · exact hjoined
      · exact (hjoined.after (by decide)).before (by decide)
  | .subquery connective table members negated, hleaves, hnames, hsymbols => by
      cases htable : table.isEmpty with
      | true =>
          exact absurd (Formula.leaves_subquery_without_table htable connective members negated)
            hleaves
      | false =>
          rw [Formula.leaves_subquery htable] at hleaves hsymbols
          rw [Formula.names_subquery htable hleaves] at hnames ⊢
          obtain ⟨hname, hmemberNames⟩ := List.forall_mem_cons.mp hnames
          have hblanked : Identifier.blanked table = blank := by
            rw [Identifier.blanked, htable]
            rfl
          have hjoined := (Formula.framed_members members hmemberNames hsymbols).1
          have hfront : Unquoted (negation negated ++ "EXISTS (SELECT * FROM ") := by
            simp +decide
          have htext := (Identifier.framed_quote hname).after hfront
          rw [Formula.unnamed, Formula.body, Formula.body, hblanked]
          exact ((htext.before (by decide)).append hjoined).before (by decide)

/-- Members are framed one by one, whether or not the connective of the first is written. -/
theorem Formula.framed_members : ∀ members : List Formula,
    (∀ name ∈ Formula.memberNames members, IsPlain name) →
    (∀ leaf ∈ Formula.memberLeaves members, ∀ symbol ∈ leaf.2.symbols, Unquoted symbol) →
    Framed (joined (Formula.survivors Value.mark members)) (Formula.memberNames members)
        (joined (Formula.survivors Value.mark (Formula.membersUnnamed members))) ∧
      Framed (continued (Formula.survivors Value.mark members)) (Formula.memberNames members)
        (continued (Formula.survivors Value.mark (Formula.membersUnnamed members)))
  | [], _, _ => ⟨rfl, rfl⟩
  | formula :: rest, hnames, hsymbols => by
      obtain ⟨hfirstNames, hrestNames⟩ := List.forall_mem_append.mp hnames
      obtain ⟨hfirstSymbols, hrestSymbols⟩ := List.forall_mem_append.mp hsymbols
      have hrest := Formula.framed_members rest hrestNames hrestSymbols
      have hiff := formula.leaves_unnamed_eq_nil_iff
      rw [Formula.memberNames, Formula.membersUnnamed]
      by_cases hleaves : formula.leaves = []
      · rw [Formula.survivors_cons_of_leaves_eq_nil _ hleaves,
          Formula.survivors_cons_of_leaves_eq_nil _ (hiff.mpr hleaves),
          Formula.names_of_leaves_eq_nil formula hleaves]
        exact hrest
      · have hbody := Formula.framed_body formula hleaves hfirstNames hfirstSymbols
        have hfront : Unquoted (" " ++ formula.connective.text ++ " ") := by
          simp +decide
        rw [Formula.survivors_cons_of_leaves_ne_nil _ hleaves,
          Formula.survivors_cons_of_leaves_ne_nil _ (hiff.not.mpr hleaves),
          Formula.connective_unnamed]
        exact ⟨hbody.append hrest.2, (hbody.after hfront).append hrest.2⟩

end

theorem framed_quoteList {names : List String} (h : ∀ name ∈ names, IsPlain name) :
    Framed (Identifier.quoteList names) names
      (Identifier.quoteList (names.map fun _ => blank)) := by
  have hall := Identifier.framed_intercalate (by decide : Unquoted ", ") Identifier.quote
    (fun name => [name]) (fun _ => Identifier.quote blank) names
    (fun name hname => Identifier.framed_quote (h name hname))
  rw [List.flatMap_singleton'] at hall
  rw [Identifier.quoteList, Identifier.quoteList, List.map_map, Function.comp_def]
  exact hall

@[simp]
theorem unquoted_repr (count : Nat) : Unquoted count.repr :=
  Text.notMem_repr (by decide) count

/-- A clause that begins with a keyword is there, whatever follows. -/
theorem Identifier.Framed.clause {keyword text frame : String} {names : List String}
    (htext : Framed text names frame) (hkeyword : Unquoted keyword) (hne : keyword ≠ "") :
    Framed (spacedClauses [keyword ++ text]) names (spacedClauses [keyword ++ frame]) := by
  have hleft : keyword ++ text ≠ "" := by simp [hne]
  have hright : keyword ++ frame ≠ "" := by simp [hne]
  rw [spacedClauses_singleton hleft, spacedClauses_singleton hright]
  exact (htext.after hkeyword).after (by decide)

theorem framed_clause_unquoted {clause : String} (h : Unquoted clause) :
    Framed (spacedClauses [clause]) [] (spacedClauses [clause]) := by
  apply Identifier.framed_unquoted
  by_cases hclause : clause = ""
  · rw [hclause]
    decide
  · rw [spacedClauses_singleton hclause]
    simp +decide [h]

theorem Identifier.Framed.cons {clause frame : String} {names names' : List String}
    {rest frames : List String} (hclause : Framed (spacedClauses [clause]) names
      (spacedClauses [frame]))
    (hrest : Framed (spacedClauses rest) names' (spacedClauses frames)) :
    Framed (spacedClauses (clause :: rest)) (names ++ names')
      (spacedClauses (frame :: frames)) := by
  rw [spacedClauses_cons, spacedClauses_cons frame]
  exact hclause.append hrest

/-- In assignments the columns are the names, in their order. -/
theorem framed_assignments (assignments : Assignments)
    (h : ∀ column ∈ assignments.keys, IsPlain column) :
    Framed (spelledAssignments Value.mark assignments) assignments.keys
      (spelledAssignments Value.mark (ColumnMap.unnamed assignments)) := by
  have hentry : ∀ entry ∈ assignments.entries,
      Framed (Identifier.quote entry.1 ++ "=" ++ Value.mark entry.2) [entry.1]
        (Identifier.quote blank ++ "=" ++ Value.mark entry.2) := by
    intro entry hentry
    have hcolumn : IsPlain entry.1 := h entry.1 (List.mem_map_of_mem hentry)
    have hmark : Unquoted (Value.mark entry.2) := by
      rw [Unquoted, Value.toList_mark]
      decide
    exact ((Identifier.framed_quote hcolumn).before (by decide)).before hmark
  have hall := Identifier.framed_intercalate (by decide : Unquoted ", ") _ (fun entry => [entry.1])
    _ assignments.entries hentry
  rw [← List.map_eq_flatMap] at hall
  rw [spelledAssignments, spelledAssignments, ColumnMap.unnamed, List.map_map]
  exact hall

namespace Clauses

theorem framed_forceIndex (clauses : Clauses)
    (h : ∀ name ∈ clauses.forceIndex.toList, IsPlain name) :
    Framed (spacedClauses [clauses.forceIndexText]) clauses.forceIndex.toList
      (spacedClauses [clauses.unnamed.forceIndexText]) := by
  unfold forceIndexText unnamed
  revert h
  cases clauses.forceIndex with
  | none =>
      intro _
      exact Identifier.framed_empty
  | some name =>
      intro h
      have hname : IsPlain name := h name (by simp)
      have htext := (Identifier.framed_quote hname).before (by decide : Unquoted ")")
      simp only [Option.map_some, String.append_assoc]
      exact htext.clause (by decide) (by decide)

/-- A condition has its own names. If no test is left in it, the clause is missing and there are
none. -/
theorem framed_where (clauses : Clauses) (hnames : ∀ name ∈ clauses.filter.names, IsPlain name)
    (hsymbols : ∀ symbol ∈ clauses.filter.symbols, Unquoted symbol) :
    Framed (spacedClauses [clauses.spelledWhere Value.mark]) clauses.filter.names
      (spacedClauses [clauses.unnamed.spelledWhere Value.mark]) := by
  have hleafSymbols : ∀ leaf ∈ clauses.filter.leaves, ∀ symbol ∈ leaf.2.symbols,
      Unquoted symbol := Filter.forall_mem_symbols.mp hsymbols
  have hfilter : Framed (clauses.filter.spelled Value.mark) clauses.filter.names
      (clauses.filter.unnamed.spelled Value.mark) :=
    (Formula.framed_members clauses.filter.members hnames hleafSymbols).1
  have hunnamed : clauses.unnamed.filter = clauses.filter.unnamed := rfl
  have hempty : clauses.filter.unnamed.leaves.isEmpty = clauses.filter.leaves.isEmpty := by
    rw [Filter.leaves, Filter.leaves, Filter.unnamed, Formula.memberLeaves_unnamed,
      List.isEmpty_map]
  rw [spelledWhere, spelledWhere, hunnamed, hempty]
  by_cases hleaves : clauses.filter.leaves = []
  · have hnone : clauses.filter.names = [] :=
      Formula.memberNames_of_memberLeaves_eq_nil clauses.filter.members hleaves
    rw [if_pos (by simp [hleaves]), if_pos (by simp [hleaves]), hnone]
    exact Identifier.framed_empty
  · rw [if_neg (by simp [hleaves]), if_neg (by simp [hleaves])]
    exact hfilter.clause (by decide) (by decide)

theorem framed_groupBy (clauses : Clauses) (h : ∀ name ∈ clauses.groupBy, IsPlain name) :
    Framed (spacedClauses [clauses.groupByText]) clauses.groupBy
      (spacedClauses [clauses.unnamed.groupByText]) := by
  have hunnamed : clauses.unnamed.groupBy = clauses.groupBy.map fun _ => blank := rfl
  rw [groupByText, groupByText, hunnamed, List.isEmpty_map]
  by_cases hgroup : clauses.groupBy = []
  · rw [hgroup]
    exact Identifier.framed_empty
  · rw [if_neg (by simp [hgroup]), if_neg (by simp [hgroup])]
    exact (framed_quoteList h).clause (by decide) (by decide)

/-- A column to sort by is given as it is and quoted once, when its step is made. -/
theorem framed_orderBy (clauses : Clauses) (h : ∀ name ∈ clauses.sortColumns, IsPlain name) :
    Framed (spacedClauses [clauses.written.orderByText]) clauses.sortColumns
      (spacedClauses [clauses.unnamed.written.orderByText]) := by
  have hkey : ∀ key ∈ clauses.orderBy, Framed key.written.text [key.column]
      (SortKey.written { key with column := blank }).text := by
    intro key hkey
    have hcolumn : IsPlain key.column := h key.column (List.mem_map_of_mem hkey)
    unfold SortKey.text SortKey.written
    cases key.direction with
    | ascending => exact (Identifier.framed_quote hcolumn).before (by decide)
    | descending => exact (Identifier.framed_quote hcolumn).before (by decide)
  have hall := Identifier.framed_intercalate (by decide : Unquoted ", ") _
    (fun key => [key.column]) _ clauses.orderBy hkey
  rw [← List.map_eq_flatMap] at hall
  rw [orderByText, orderByText, sortColumns]
  simp only [written, unnamed, List.map_map, List.isEmpty_map]
  by_cases horder : clauses.orderBy = []
  · rw [horder]
    exact Identifier.framed_empty
  · rw [if_neg (by simp [horder]), if_neg (by simp [horder])]
    exact hall.clause (by decide) (by decide)

/-- Assignments of an empty map are no clause, and have no names. -/
theorem framed_onDuplicateKey (clauses : Clauses)
    (h : ∀ column ∈ clauses.duplicateKeyColumns, IsPlain column) :
    Framed (spacedClauses [clauses.spelledOnDuplicateKey Value.mark]) clauses.duplicateKeyColumns
      (spacedClauses [clauses.unnamed.spelledOnDuplicateKey Value.mark]) := by
  unfold spelledOnDuplicateKey duplicateKeyColumns unnamed
  unfold duplicateKeyColumns at h
  revert h
  cases clauses.onDuplicateKey with
  | none =>
      intro _
      exact Identifier.framed_empty
  | some assignments =>
      intro h
      simp only [Option.map_some, ColumnMap.isEmpty_unnamed]
      by_cases hempty : assignments.isEmpty
      · have hkeys : assignments.keys = [] := by
          rw [ColumnMap.keys, List.isEmpty_iff.mp hempty, List.map_nil]
        rw [if_pos hempty, if_pos hempty, hkeys]
        exact Identifier.framed_empty
      · rw [if_neg hempty, if_neg hempty]
        exact (framed_assignments assignments h).clause (by decide) (by decide)

theorem unquoted_limitText (clauses : Clauses) : Unquoted clauses.limitText := by
  unfold limitText
  cases clauses.limit with
  | none => decide
  | some count => simp +decide

theorem unquoted_offsetText (clauses : Clauses) : Unquoted clauses.offsetText := by
  unfold offsetText
  cases clauses.offset with
  | none => decide
  | some count => simp +decide

theorem unquoted_forUpdateText (clauses : Clauses) : Unquoted clauses.forUpdateText := by
  unfold forUpdateText
  split <;> decide

end Clauses

namespace Scope

/-- Before the data of an insertion stand the table and then the columns. -/
theorem framed_insertHead (scope : Scope) (columns : List String)
    (h : ∀ name ∈ scope.table :: columns, IsPlain name) :
    Framed (scope.insertHead columns) (scope.table :: columns)
      (scope.unnamed.insertHead (columns.map fun _ => blank)) := by
  obtain ⟨htable, hcolumns⟩ := List.forall_mem_cons.mp h
  have hfront := (Identifier.framed_quote htable).after (by decide : Unquoted "INSERT INTO ")
  have hback := (framed_quoteList hcolumns).before (by decide : Unquoted ")")
  have hall := (hfront.before (by decide : Unquoted " (")).append hback
  have htext : Framed _ (scope.table :: columns) _ := hall
  unfold insertHead
  simp only [String.append_assoc] at htext ⊢
  exact htext

/-- The last clauses of a statement that changes rows. -/
private theorem framed_lastClauses (clauses : Clauses)
    (h : ∀ name ∈ clauses.sortColumns, IsPlain name) :
    Framed (spacedClauses [clauses.written.orderByText, clauses.limitText, clauses.offsetText])
      clauses.sortColumns
      (spacedClauses [clauses.unnamed.written.orderByText, clauses.limitText,
        clauses.offsetText]) := by
  have hall := (clauses.framed_orderBy h).cons
    ((framed_clause_unquoted clauses.unquoted_limitText).cons
      (framed_clause_unquoted clauses.unquoted_offsetText))
  simpa using hall

/-- A selection names its columns before its table, then the index and what its other clauses name.
-/
private theorem framed_select (scope : Scope) (columns : List String)
    (hnames : ∀ name ∈ scope.names (.select columns), IsPlain name)
    (hsymbols : ∀ symbol ∈ scope.clauses.filter.symbols, Unquoted symbol) :
    Framed (scope.written.spelled Value.mark (.select columns)) (scope.names (.select columns))
      (scope.unnamed.written.spelled Value.mark (.select (columns.map fun _ => blank))) := by
  simp only [names, List.forall_mem_append, List.forall_mem_cons] at hnames
  obtain ⟨⟨⟨⟨hcolumns, htable, hindex⟩, hfilter⟩, hgroup⟩, hsort⟩ := hnames
  have hcolumnList : Framed (if columns.isEmpty then "*" else Identifier.quoteList columns) columns
      (if (columns.map fun _ => blank).isEmpty then "*"
        else Identifier.quoteList (columns.map fun _ => blank)) := by
    rw [List.isEmpty_map]
    cases columns with
    | nil => exact Identifier.framed_unquoted (by decide)
    | cons column rest => exact framed_quoteList hcolumns
  have hfront := (hcolumnList.after (by decide : Unquoted "SELECT ")).before
    (by decide : Unquoted " FROM ")
  have hhead := hfront.append (Identifier.framed_quote htable)
  have hflags := (framed_clause_unquoted scope.clauses.unquoted_limitText).cons
    ((framed_clause_unquoted scope.clauses.unquoted_offsetText).cons
      (framed_clause_unquoted scope.clauses.unquoted_forUpdateText))
  have hclauses := (scope.clauses.framed_forceIndex hindex).cons
    ((scope.clauses.framed_where hfilter hsymbols).cons
      ((scope.clauses.framed_groupBy hgroup).cons
        ((scope.clauses.framed_orderBy hsort).cons hflags)))
  have hall := hhead.append hclauses
  have horder : scope.names (.select columns) = (columns ++ [scope.table]) ++
      (scope.clauses.forceIndex.toList ++ (scope.clauses.filter.names ++
        (scope.clauses.groupBy ++ (scope.clauses.sortColumns ++ ([] ++ ([] ++ [])))))) := by
    simp [names]
  rw [horder, spelled, spelled, appendClauses_eq, appendClauses_eq]
  exact hall

private theorem framed_update (scope : Scope) (assignments : Assignments)
    (hnames : ∀ name ∈ scope.names (.update assignments), IsPlain name)
    (hsymbols : ∀ symbol ∈ scope.clauses.filter.symbols, Unquoted symbol) :
    Framed (scope.written.spelled Value.mark (.update assignments))
      (scope.names (.update assignments))
      (scope.unnamed.written.spelled Value.mark
        (.update (ColumnMap.unnamed assignments))) := by
  simp only [names, List.forall_mem_append, List.forall_mem_cons] at hnames
  obtain ⟨⟨⟨htable, hkeys⟩, hfilter⟩, hsort⟩ := hnames
  have hhead := (Identifier.framed_quote htable).after (by decide : Unquoted "UPDATE ")
  have hset := (framed_assignments assignments hkeys).clause (by decide : Unquoted "SET ")
    (by decide)
  have hclauses := hset.cons ((scope.clauses.framed_where hfilter hsymbols).cons
    (framed_lastClauses scope.clauses hsort))
  have hall := hhead.append hclauses
  have horder : scope.names (.update assignments) = [scope.table] ++ (assignments.keys ++
      (scope.clauses.filter.names ++ scope.clauses.sortColumns)) := by
    simp [names]
  rw [horder, spelled, spelled, appendClauses_eq, appendClauses_eq]
  exact hall

private theorem framed_delete (scope : Scope)
    (hnames : ∀ name ∈ scope.names .delete, IsPlain name)
    (hsymbols : ∀ symbol ∈ scope.clauses.filter.symbols, Unquoted symbol) :
    Framed (scope.written.spelled Value.mark .delete) (scope.names .delete)
      (scope.unnamed.written.spelled Value.mark .delete) := by
  simp only [names, List.forall_mem_append, List.forall_mem_cons] at hnames
  obtain ⟨⟨htable, hfilter⟩, hsort⟩ := hnames
  have hhead := (Identifier.framed_quote htable).after (by decide : Unquoted "DELETE FROM ")
  have hclauses := (scope.clauses.framed_where hfilter hsymbols).cons
    (framed_lastClauses scope.clauses hsort)
  have hall := hhead.append hclauses
  rw [spelled, spelled, appendClauses_eq, appendClauses_eq]
  exact hall

private theorem framed_insertRecords (scope : Scope) (columns : List String)
    (records : List (List Value))
    (hnames : ∀ name ∈ scope.names (.insertRecords columns records), IsPlain name) :
    Framed (scope.written.spelled Value.mark (.insertRecords columns records))
      (scope.names (.insertRecords columns records))
      (scope.unnamed.written.spelled Value.mark
        (.insertRecords (columns.map fun _ => blank) records)) := by
  obtain ⟨hheadNames, hduplicateColumns⟩ := List.forall_mem_append.mp hnames
  have hrows : Unquoted (", ".intercalate (records.map (spelledRow Value.mark))) := by
    apply unquoted_intercalate (by decide)
    intro text htext
    obtain ⟨record, _, rfl⟩ := List.mem_map.mp htext
    simp +decide [spelledRow, unquoted_marks]
  have hhead := ((scope.framed_insertHead columns hheadNames).before
    (by decide : Unquoted " VALUES ")).before hrows
  have hall := hhead.append (scope.clauses.framed_onDuplicateKey hduplicateColumns)
  rw [spelled, spelled, appendClauses_eq, appendClauses_eq]
  exact hall

private theorem framed_insertIf (scope : Scope) (columns : List String) (record : List Value)
    (hnames : ∀ name ∈ scope.names (.insertIf columns record), IsPlain name)
    (hsymbols : ∀ symbol ∈ scope.clauses.filter.symbols, Unquoted symbol) :
    Framed (scope.written.spelled Value.mark (.insertIf columns record))
      (scope.names (.insertIf columns record))
      (scope.unnamed.written.spelled Value.mark
        (.insertIf (columns.map fun _ => blank) record)) := by
  obtain ⟨hheadNames, hfilter⟩ := List.forall_mem_append.mp hnames
  have hhead := (((scope.framed_insertHead columns hheadNames).before
    (by decide : Unquoted " SELECT ")).before (unquoted_marks record)).before
      (by decide : Unquoted " FROM dual")
  have hall := hhead.append (scope.clauses.framed_where hfilter hsymbols)
  rw [spelled, spelled, appendClauses_eq, appendClauses_eq]
  exact hall

/-- The names of a task are the runs of its text, and the text with blank names is the frame. -/
theorem framed_spelled (scope : Scope) (task : Task)
    (hnames : ∀ name ∈ scope.names task, IsPlain name)
    (hsymbols : ∀ symbol ∈ scope.clauses.filter.symbols, Unquoted symbol) :
    Framed (scope.written.spelled Value.mark task) (scope.names task)
      (scope.unnamed.written.spelled Value.mark task.unnamed) := by
  cases task with
  | nothing => exact Identifier.framed_empty
  | select columns => exact scope.framed_select columns hnames hsymbols
  | update assignments => exact scope.framed_update assignments hnames hsymbols
  | delete => exact scope.framed_delete hnames hsymbols
  | insertRecords columns records => exact scope.framed_insertRecords columns records hnames
  | insertIf columns record => exact scope.framed_insertIf columns record hnames hsymbols

/-- A statement is framed by the statement of its outline. -/
theorem framed_statement (scope : Scope) (call : Call)
    (hnames : ∀ name ∈ scope.names (scope.task call), IsPlain name)
    (hsymbols : ∀ symbol ∈ scope.clauses.filter.symbols, Unquoted symbol) :
    Framed (scope.written.statement call).sql (scope.names (scope.task call))
      (scope.outline.written.statement call.outline).sql := by
  rw [sql_outline, statement_eq, task_written]
  exact scope.framed_spelled (scope.task call) hnames hsymbols

end Scope

/-- Pairing the marks of a statement from left to right gives the names in it, in the order of the
text, for every sequence of steps and every call, as long as these names are plain. Nothing else of
the text depends on them: all other plain names in the same places, with any values, give the same
text between the quoted runs. A symbol that is made up by the caller must not have a mark in it;
predicates that are made by the named comparisons bring none along
(`Clauses.forall_mem_symbols_ofSteps`). -/
theorem quoted_runs_are_names (table : String) (steps : List Step) (call : Call)
    (hnames : ∀ name ∈ Scope.names { table, clauses := .given steps }
      (Scope.task { table, clauses := .given steps } call), IsPlain name)
    (hsymbols : ∀ symbol ∈ (Clauses.ofSteps steps).filter.symbols, Unquoted symbol) :
    let given : Scope := { table, clauses := .given steps }
    ∃ frame,
      Framed (Scope.statement { table, clauses := .ofSteps steps } call).sql
        (given.names (given.task call)) frame ∧
      ∀ (table' : String) (steps' : List Step) (call' : Call),
        let given' : Scope := { table := table', clauses := .given steps' }
        (∀ name ∈ given'.names (given'.task call'), IsPlain name) →
        given.outline = given'.outline → call.outline = call'.outline →
        Framed (Scope.statement { table := table', clauses := .ofSteps steps' } call').sql
          (given'.names (given'.task call')) frame := by
  intro given
  refine ⟨(given.outline.written.statement call.outline).sql, ?_, ?_⟩
  · rw [Scope.ofSteps_eq_written]
    exact given.framed_statement call hnames hsymbols
  · intro table' steps' call' given' hnames' hscope hcall
    have hsymbols' : ∀ symbol ∈ given'.clauses.filter.symbols, Unquoted symbol := by
      rw [← given'.symbols_outline, ← hscope, given.symbols_outline]
      exact hsymbols
    rw [Scope.ofSteps_eq_written, hscope, hcall]
    exact given'.framed_statement call' hnames' hsymbols'

/-- Marks in a value are none in the text, and a column to sort by is quoted once. -/
theorem quoted_runs_of_renamed_select :
    let steps : List Step :=
      [.orAllOf (.ofPairs [("name", .like (.text "\x60") .contains true), ("age", .eq .null)]),
        .andExists "order" (.ofPairs [("id", .inList [.null, .null] false)]),
        .orderBy "age" .descending, .forceIndex "idx"]
    let steps' : List Step :=
      [.orAllOf (.ofPairs [("a", .like (.text "b") .suffixed true), ("b", .eq (.text "c"))]),
        .andExists "d" (.ofPairs [("e", .inList [.text "\x60", .null] false)]),
        .orderBy "f" .descending, .forceIndex "g"]
    let given : Scope := { table := "user", clauses := .given steps }
    let given' : Scope := { table := "h", clauses := .given steps' }
    let call : Call := .select ["id"]
    let call' : Call := .select ["i"]
    ((∀ name ∈ given.names (given.task call), IsPlain name) ∧
      (∀ symbol ∈ (Clauses.ofSteps steps).filter.symbols, Unquoted symbol) ∧
      (∀ name ∈ given'.names (given'.task call'), IsPlain name) ∧
      given.outline = given'.outline ∧ call.outline = call'.outline) ∧
    ∃ frame,
      Framed (Scope.statement { table := "user", clauses := .ofSteps steps } call).sql
        ["id", "user", "idx", "name", "age", "order", "id", "age"] frame ∧
      Framed (Scope.statement { table := "h", clauses := .ofSteps steps' } call').sql
        ["i", "h", "g", "a", "b", "d", "e", "f"] frame := by
  intro steps steps' given given' call call'
  have hsymbols : ∀ symbol ∈ (Clauses.ofSteps steps).filter.symbols, Unquoted symbol :=
    Clauses.forall_mem_symbols_ofSteps (by decide) (by decide)
  refine ⟨⟨by decide, hsymbols, by decide, rfl, rfl⟩, ?_⟩
  obtain ⟨frame, hframed, hrenamed⟩ :=
    quoted_runs_are_names "user" steps call (by decide) hsymbols
  exact ⟨frame, hframed, hrenamed "h" steps' call' (by decide) rfl rfl⟩

end BoundSql
