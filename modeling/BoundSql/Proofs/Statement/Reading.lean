import BoundSql.Proofs.Statement.Clauses

/-!
A statement determines its clauses. What a selection, an update or a deletion says about rows can be
read off its text: the columns, the table, and every clause up to the values that are bound. Only
names outside of the condition have to be plain.
-/

namespace BoundSql

open Identifier (IsPlain)
open Text (Breaks ReadsBefore)

/-- The columns of a selection. -/
def columnList (columns : List String) : String :=
  if columns.isEmpty then "*" else Identifier.quoteList columns

theorem columnList_of_ne_nil {columns : List String} (hne : columns ≠ []) :
    columnList columns = Identifier.quoteList columns := by
  rw [columnList, if_neg (by simp [hne])]

/-- The star is not taken for a name. -/
theorem star_ne_quoteList {names : List String} (hne : names ≠ [])
    (hplain : ∀ name ∈ names, IsPlain name) (rest rest' : List Char) :
    "*".toList ++ rest ≠ (Identifier.quoteList names).toList ++ rest' := by
  intro htext
  have hhead := congrArg List.head? htext
  rw [List.head?_append, List.head?_append, Identifier.head?_quoteList hne hplain] at hhead
  exact absurd (Option.some.inj hhead) (by decide)

/-- A list of columns is read up to the space behind it, the star for no columns included. -/
theorem readsBefore_columnList :
    ReadsBefore Breaks (fun columns => ∀ column ∈ columns, IsPlain column) columnList := by
  intro columns columns' rest rest' hplain hplain' hbreaks hbreaks' htext
  by_cases hnone : columns = []
  · by_cases hnone' : columns' = []
    · subst hnone hnone'
      exact ⟨rfl, List.append_cancel_left htext⟩
    · rw [hnone, columnList_of_ne_nil hnone'] at htext
      exact absurd htext (star_ne_quoteList hnone' hplain' _ _)
  · by_cases hnone' : columns' = []
    · rw [hnone', columnList_of_ne_nil hnone] at htext
      exact absurd htext.symm (star_ne_quoteList hnone hplain _ _)
    · rw [columnList_of_ne_nil hnone, columnList_of_ne_nil hnone'] at htext
      exact Identifier.readsBefore_quoteList ⟨hnone, hplain⟩ ⟨hnone', hplain'⟩ hbreaks hbreaks'
        htext

/-- The columns of some assignments, each with the mark of its value. -/
def markedColumns (columns : List String) : String :=
  ", ".intercalate (columns.map fun column => Identifier.quote column ++ "=?")

theorem spelledAssignments_eq_markedColumns (assignments : Assignments) :
    spelledAssignments Value.mark assignments = markedColumns assignments.keys := by
  rw [spelledAssignments, markedColumns, ColumnMap.keys, List.map_map]
  congr 2
  funext entry
  exact String.append_assoc

theorem ColumnMap.keys_ne_nil {α : Type} {map : ColumnMap α} (hne : map.isEmpty = false) :
    map.keys ≠ [] := by
  simpa [keys, isEmpty] using hne

/-- Assigned columns can be read one by one, as long as there is one. -/
theorem readsBefore_markedColumns :
    ReadsBefore Breaks (fun columns => columns ≠ [] ∧ ∀ column ∈ columns, IsPlain column)
      markedColumns := by
  exact (Identifier.selfDelimiting_quote.before "=?").separated rfl (by decide)

/-- The clauses of an update or a deletion. -/
def ClauseKind.shared : List ClauseKind :=
  [.condition, .orderBy, .limit, .offset]

/-- Clauses with plain names that are written in a fixed order are read back, whichever of them are
missing: where their texts agree, so do they. -/
theorem Clauses.sameIn_of_written {clauses clauses' : Clauses} {kinds : List ClauseKind}
    (hsorted : kinds.Pairwise fun kind later => kind.place < later.place)
    (hnames : ∀ kind ∈ kinds, ∀ name ∈ clauses.namesOf kind, IsPlain name)
    (hnames' : ∀ kind ∈ kinds, ∀ name ∈ clauses'.namesOf kind, IsPlain name)
    (htext : ClauseKind.written clauses.content? kinds =
      ClauseKind.written clauses'.content? kinds) :
    ∀ kind ∈ kinds, clauses.SameIn clauses' kind := by
  intro kind hkind
  apply sameIn_of_content?
  apply ClauseKind.contents_eq hsorted _ _ htext kind hkind
  · intro other hother
    exact isReadable_content (hnames other hother)
  · intro other hother
    exact isReadable_content (hnames' other hother)

namespace Scope

/-- A selection ends with its clauses, all of them in their fixed order. -/
theorem spelled_select (scope : Scope) (columns : List String) :
    scope.written.spelled Value.mark (.select columns) =
      "SELECT " ++ columnList columns ++ " FROM " ++ Identifier.quote scope.table ++
        ClauseKind.written scope.clauses.content? ClauseKind.all := by
  rw [← scope.clauses.spacedClauses_map_textOf, spelled, appendClauses_eq]
  rfl

/-- An update has no index, no groups and no lock among its clauses. -/
theorem spelled_update (scope : Scope) (assignments : Assignments) :
    scope.written.spelled Value.mark (.update assignments) =
      "UPDATE " ++ Identifier.quote scope.table ++ " SET " ++ markedColumns assignments.keys ++
        ClauseKind.written scope.clauses.content? ClauseKind.shared := by
  have hset : spacedClauses ["SET " ++ markedColumns assignments.keys] =
      " SET " ++ markedColumns assignments.keys := by
    rw [spacedClauses_singleton (by simp), ← String.append_assoc]
    rfl
  rw [← scope.clauses.spacedClauses_map_textOf, spelled, appendClauses_eq, spacedClauses_cons,
    spelledAssignments_eq_markedColumns, hset]
  simp only [String.append_assoc]
  rfl

theorem spelled_delete (scope : Scope) :
    scope.written.spelled Value.mark .delete =
      "DELETE FROM " ++ Identifier.quote scope.table ++
        ClauseKind.written scope.clauses.content? ClauseKind.shared := by
  rw [← scope.clauses.spacedClauses_map_textOf, spelled, appendClauses_eq]
  rfl

/-- The table and the names in some clauses are plain. -/
structure PlainIn (scope : Scope) (kinds : List ClauseKind) : Prop where
  table : IsPlain scope.table
  clauses : ∀ kind ∈ kinds, ∀ name ∈ scope.clauses.namesOf kind, IsPlain name

theorem plainIn_all {scope : Scope} (h : ∀ name ∈ scope.table :: scope.clauses.forceIndex.toList ++
    scope.clauses.groupBy ++ scope.clauses.sortColumns, IsPlain name) :
    scope.PlainIn ClauseKind.all := by
  constructor
  · apply h
    simp
  · intro kind _ name hname
    apply h
    cases kind <;> simp_all [Clauses.namesOf]

theorem plainIn_shared {scope : Scope}
    (h : ∀ name ∈ scope.table :: scope.clauses.sortColumns, IsPlain name) :
    scope.PlainIn ClauseKind.shared := by
  obtain ⟨htable, hsort⟩ := List.forall_mem_cons.mp h
  constructor
  · exact htable
  · intro kind hkind name hname
    apply hsort
    cases kind <;> simp_all [Clauses.namesOf, ClauseKind.shared]

/-- The text of a selection is read from the front: its columns up to the table, the table, and
clause by clause. -/
theorem read_select {scope scope' : Scope} (hplain : scope.PlainIn ClauseKind.all)
    (hplain' : scope'.PlainIn ClauseKind.all) {columns columns' : List String}
    (hcolumns : ∀ column ∈ columns, IsPlain column)
    (hcolumns' : ∀ column ∈ columns', IsPlain column)
    (htext : scope.written.spelled Value.mark (.select columns) =
      scope'.written.spelled Value.mark (.select columns')) :
    columns = columns' ∧ scope.table = scope'.table ∧
      ∀ kind ∈ ClauseKind.all, scope.clauses.SameIn scope'.clauses kind := by
  have hfrom (rest : List Char) : Breaks (" FROM ".toList ++ rest) := by
    intro c hc
    cases hc
    rfl
  have hchars := congrArg String.toList htext
  simp only [spelled_select, String.toList_append, List.append_assoc] at hchars
  obtain ⟨hlist, hrest⟩ := readsBefore_columnList hcolumns hcolumns' (hfrom _) (hfrom _)
    (List.append_cancel_left hchars)
  obtain ⟨htable, hclauses⟩ := Identifier.read_quote hplain.table hplain'.table
    (List.append_cancel_left hrest)
  refine ⟨hlist, htable, ?_⟩
  exact Clauses.sameIn_of_written (by decide) hplain.clauses hplain'.clauses
    (String.toList_inj.mp hclauses)

theorem read_update {scope scope' : Scope} (hplain : scope.PlainIn ClauseKind.shared)
    (hplain' : scope'.PlainIn ClauseKind.shared) {assignments assignments' : Assignments}
    (hassigned : assignments.keys ≠ [] ∧ ∀ column ∈ assignments.keys, IsPlain column)
    (hassigned' : assignments'.keys ≠ [] ∧ ∀ column ∈ assignments'.keys, IsPlain column)
    (htext : scope.written.spelled Value.mark (.update assignments) =
      scope'.written.spelled Value.mark (.update assignments')) :
    scope.table = scope'.table ∧ assignments.keys = assignments'.keys ∧
      ∀ kind ∈ ClauseKind.shared, scope.clauses.SameIn scope'.clauses kind := by
  have hbreaks (clauses : Clauses) :
      Breaks (ClauseKind.written clauses.content? ClauseKind.shared).toList :=
    ClauseKind.breaks_of_goesOn (ClauseKind.goesOn_written _ _)
  have hchars := congrArg String.toList htext
  simp only [spelled_update, String.toList_append, List.append_assoc] at hchars
  obtain ⟨htable, hset⟩ := Identifier.read_quote hplain.table hplain'.table
    (List.append_cancel_left hchars)
  obtain ⟨hkeys, hclauses⟩ := readsBefore_markedColumns hassigned hassigned' (hbreaks _)
    (hbreaks _) (List.append_cancel_left hset)
  refine ⟨htable, hkeys, ?_⟩
  exact Clauses.sameIn_of_written (by decide) hplain.clauses hplain'.clauses
    (String.toList_inj.mp hclauses)

theorem read_delete {scope scope' : Scope} (hplain : scope.PlainIn ClauseKind.shared)
    (hplain' : scope'.PlainIn ClauseKind.shared)
    (htext : scope.written.spelled Value.mark .delete =
      scope'.written.spelled Value.mark .delete) :
    scope.table = scope'.table ∧
      ∀ kind ∈ ClauseKind.shared, scope.clauses.SameIn scope'.clauses kind := by
  have hchars := congrArg String.toList htext
  simp only [spelled_delete, String.toList_append, List.append_assoc] at hchars
  obtain ⟨htable, hclauses⟩ := Identifier.read_quote hplain.table hplain'.table
    (List.append_cancel_left hchars)
  refine ⟨htable, ?_⟩
  exact Clauses.sameIn_of_written (by decide) hplain.clauses hplain'.clauses
    (String.toList_inj.mp hclauses)

end Scope

/-- Two calls of one kind with equal texts agree in all that is said about rows: in their columns
and tables, and in the presence and the contents of every clause, whichever of them are missing. Of
a condition only its text is known. The condition may hold any names and symbols. -/
theorem statement_determines_clauses (table table' : String) (steps steps' : List Step) :
    let sql (call : Call) := (Scope.statement { table, clauses := .ofSteps steps } call).sql
    let sql' (call : Call) :=
      (Scope.statement { table := table', clauses := .ofSteps steps' } call).sql
    let clauses := Clauses.given steps
    let clauses' := Clauses.given steps'
    (∀ columns columns' : List String,
      (∀ name ∈ columns ++ (table :: clauses.forceIndex.toList ++ clauses.groupBy ++
        clauses.sortColumns), IsPlain name) →
      (∀ name ∈ columns' ++ (table' :: clauses'.forceIndex.toList ++ clauses'.groupBy ++
        clauses'.sortColumns), IsPlain name) →
      sql (.select columns) = sql' (.select columns') →
      columns = columns' ∧ table = table' ∧ clauses.forceIndex = clauses'.forceIndex ∧
        (clauses.filter.write.run []).1 = (clauses'.filter.write.run []).1 ∧
        clauses.groupBy = clauses'.groupBy ∧ clauses.orderBy = clauses'.orderBy ∧
        clauses.limit = clauses'.limit ∧ clauses.offset = clauses'.offset ∧
        clauses.forUpdate = clauses'.forUpdate) ∧
    (∀ assignments assignments' : Assignments,
      assignments.isEmpty = false → assignments'.isEmpty = false →
      (∀ name ∈ assignments.keys ++ table :: clauses.sortColumns, IsPlain name) →
      (∀ name ∈ assignments'.keys ++ table' :: clauses'.sortColumns, IsPlain name) →
      sql (.update (some assignments)) = sql' (.update (some assignments')) →
      table = table' ∧ assignments.keys = assignments'.keys ∧
        (clauses.filter.write.run []).1 = (clauses'.filter.write.run []).1 ∧
        clauses.orderBy = clauses'.orderBy ∧ clauses.limit = clauses'.limit ∧
        clauses.offset = clauses'.offset) ∧
    ((∀ name ∈ table :: clauses.sortColumns, IsPlain name) →
      (∀ name ∈ table' :: clauses'.sortColumns, IsPlain name) →
      sql .delete = sql' .delete →
      table = table' ∧ (clauses.filter.write.run []).1 = (clauses'.filter.write.run []).1 ∧
        clauses.orderBy = clauses'.orderBy ∧ clauses.limit = clauses'.limit ∧
        clauses.offset = clauses'.offset) := by
  intro sql sql' clauses clauses'
  let given : Scope := { table, clauses }
  let given' : Scope := { table := table', clauses := clauses' }
  have hsql (call : Call) : sql call = given.written.spelled Value.mark (given.task call) :=
    Scope.sql_ofSteps table steps call
  have hsql' (call : Call) : sql' call = given'.written.spelled Value.mark (given'.task call) :=
    Scope.sql_ofSteps table' steps' call
  refine ⟨?_, ?_, ?_⟩
  · intro columns columns' hnames hnames' htext
    rw [hsql, hsql'] at htext
    obtain ⟨hcolumns, hothers⟩ := List.forall_mem_append.mp hnames
    obtain ⟨hcolumns', hothers'⟩ := List.forall_mem_append.mp hnames'
    obtain ⟨hlist, htable, hsame⟩ := Scope.read_select (Scope.plainIn_all hothers)
      (Scope.plainIn_all hothers') hcolumns hcolumns' htext
    exact ⟨hlist, htable, hsame .forceIndex (by decide), hsame .condition (by decide),
      hsame .groupBy (by decide), hsame .orderBy (by decide), hsame .limit (by decide),
      hsame .offset (by decide), hsame .forUpdate (by decide)⟩
  · intro assignments assignments' hne hne' hnames hnames' htext
    rw [hsql, hsql', Scope.task_update given hne, Scope.task_update given' hne'] at htext
    obtain ⟨hkeys, hothers⟩ := List.forall_mem_append.mp hnames
    obtain ⟨hkeys', hothers'⟩ := List.forall_mem_append.mp hnames'
    obtain ⟨htable, hassigned, hsame⟩ := Scope.read_update (Scope.plainIn_shared hothers)
      (Scope.plainIn_shared hothers') ⟨ColumnMap.keys_ne_nil hne, hkeys⟩
      ⟨ColumnMap.keys_ne_nil hne', hkeys'⟩ htext
    exact ⟨htable, hassigned, hsame .condition (by decide), hsame .orderBy (by decide),
      hsame .limit (by decide), hsame .offset (by decide)⟩
  · intro hnames hnames' htext
    rw [hsql, hsql'] at htext
    obtain ⟨htable, hsame⟩ := Scope.read_delete (Scope.plainIn_shared hnames)
      (Scope.plainIn_shared hnames') htext
    exact ⟨htable, hsame .condition (by decide), hsame .orderBy (by decide),
      hsame .limit (by decide), hsame .offset (by decide)⟩

/-- One selection, one update and one deletion that are built in two ways each: by steps in another
order, some of them taken back, and with values that look like clauses. -/
theorem same_clauses_of_reordered_steps :
    let steps : List Step :=
      [.and "a" (.eq (.text "x")), .orExists "t" (.ofPairs [("b", .inList [.null] false)]),
        .groupBy ["g", "h"], .orderBy "c" .descending, .limit 3, .limit 10, .forUpdate]
    let steps' : List Step :=
      [.forUpdate, .limit 10, .forceIndex "i", .or "a" (.eq .null), .groupBy ["g"],
        .orExists "t" (.ofPairs [("b", .inList [.text ") GROUP BY "] false)]), .groupBy ["h"],
        .orderBy "c" .descending, .forceIndex ""]
    let sql (call : Call) := (Scope.statement { table := "u", clauses := .ofSteps steps } call).sql
    let sql' (call : Call) :=
      (Scope.statement { table := "u", clauses := .ofSteps steps' } call).sql
    let clauses := Clauses.given steps
    let clauses' := Clauses.given steps'
    let assignments : Assignments := .ofPairs [("d", .null)]
    let assignments' : Assignments := .ofPairs [("d", .text " WHERE ")]
    ((∀ name ∈ ["e"] ++ ("u" :: clauses.forceIndex.toList ++ clauses.groupBy ++
        clauses.sortColumns), IsPlain name) ∧
      (∀ name ∈ ["e"] ++ ("u" :: clauses'.forceIndex.toList ++ clauses'.groupBy ++
        clauses'.sortColumns), IsPlain name) ∧
      sql (.select ["e"]) = sql' (.select ["e"]) ∧
      (assignments.isEmpty = false ∧ assignments'.isEmpty = false) ∧
      sql (.update assignments) = sql' (.update assignments') ∧ sql .delete = sql' .delete) ∧
    (clauses.forceIndex = clauses'.forceIndex ∧
      (clauses.filter.write.run []).1 = (clauses'.filter.write.run []).1 ∧
      clauses.groupBy = clauses'.groupBy) ∧
    assignments.keys = assignments'.keys ∧ clauses.orderBy = clauses'.orderBy := by
  intro steps steps' sql sql' clauses clauses' assignments assignments'
  have hselect : sql (.select ["e"]) = sql' (.select ["e"]) := by decide +kernel
  have hupdate : sql (.update assignments) = sql' (.update assignments') := by decide +kernel
  have hdelete : sql .delete = sql' .delete := by decide +kernel
  obtain ⟨hofSelect, hofUpdate, hofDelete⟩ := statement_determines_clauses "u" "u" steps steps'
  obtain ⟨_, _, hindex, hcondition, hgroup, _⟩ :=
    hofSelect ["e"] ["e"] (by decide) (by decide) hselect
  obtain ⟨_, hkeys, _⟩ :=
    hofUpdate assignments assignments' rfl rfl (by decide) (by decide) hupdate
  obtain ⟨_, _, horder, _⟩ := hofDelete (by decide) (by decide) hdelete
  refine ⟨⟨by decide, by decide, hselect, ⟨rfl, rfl⟩, hupdate, hdelete⟩, ?_, hkeys, horder⟩
  exact ⟨hindex, hcondition, hgroup⟩

end BoundSql
