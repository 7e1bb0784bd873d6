import BoundSql.Proofs.Formula.Readability
import BoundSql.Proofs.Lists
import BoundSql.Proofs.Statement.Spelling

/-!
The records of an insertion are read back from its statement. The parameters are the values of all
records in a row, and where one record ends and the next begins is said by the text alone: each
record has a row of marks there, as many as it has values. Names do not matter for this, since both
texts have the same names in front of the rows and behind them.
-/

namespace BoundSql

/-- The row of a record with a number of values. -/
def markedRow (width : Nat) : String :=
  spelledRow Value.mark (List.replicate width .null)

theorem spelledRow_mark (record : List Value) :
    spelledRow Value.mark record = markedRow record.length := by
  have hmarks : record.map Value.mark = (List.replicate record.length .null).map Value.mark := by
    rw [List.map_replicate, ← List.map_const']
    rfl
  rw [markedRow, spelledRow, spelledRow, hmarks]

private theorem toList_markedRow (width : Nat) (rest : List Char) :
    (markedRow width).toList ++ rest = '(' ::
      ((",".intercalate ((List.replicate width .null).map Value.mark) ++ ")").toList ++ rest) := by
  simp [markedRow, spelledRow]

/-- A row ends at its parenthesis, and before that it has a mark for each value. -/
theorem selfDelimiting_markedRow : Text.SelfDelimiting (fun _ => True) markedRow := by
  intro width width' rest rest' _ _ _ _ htext
  rw [toList_markedRow, toList_markedRow] at htext
  obtain ⟨hwidth, hrest⟩ := read_marks (List.cons.inj htext).2
  rw [List.length_replicate, List.length_replicate] at hwidth
  exact ⟨hwidth, hrest⟩

/-- The rows tell how many records there are and how many values each of them has. -/
theorem widths_of_rows {records others : List (List Value)} (hrecords : records ≠ [])
    (hothers : others ≠ [])
    (h : ", ".intercalate (records.map (spelledRow Value.mark)) =
      ", ".intercalate (others.map (spelledRow Value.mark))) :
    records.map List.length = others.map List.length := by
  have hrows (lists : List (List Value)) :
      lists.map (spelledRow Value.mark) = (lists.map List.length).map markedRow := by
    rw [List.map_map]
    exact List.map_congr_left fun record _ => spelledRow_mark record
  have hread : Text.ReadsBefore Text.Breaks
      (fun widths => widths ≠ [] ∧ ∀ width ∈ widths, True)
      (fun widths => ", ".intercalate (widths.map markedRow)) :=
    selfDelimiting_markedRow.separated rfl (by decide)
  rw [hrows, hrows] at h
  have htext := congrArg (fun text => text.toList ++ []) h
  exact (hread ⟨by simpa using hrecords, fun _ _ => trivial⟩
    ⟨by simpa using hothers, fun _ _ => trivial⟩ Text.breaks_nil Text.breaks_nil htext).1

theorem Statement.beq_iff {statement other : Statement} :
    (statement == other) = true ↔
      statement.sql = other.sql ∧ (statement.params == other.params) = true := by
  change (statement.sql == other.sql && statement.params == other.params) = true ↔ _
  rw [Bool.and_eq_true, beq_iff_eq]

namespace Scope

/-- Without a condition, records of which none is empty are all inserted. -/
theorem task_insert {scope : Scope} (hwhere : scope.clauses.hasWhere = false)
    {columns : List String} (hcolumns : columns ≠ []) {records : List (List Value)}
    (hrecords : records ≠ [] ∧ ∀ record ∈ records, record ≠ []) :
    scope.task (.insert columns records) = .insertRecords columns records := by
  obtain ⟨first, rest, rfl⟩ := List.exists_cons_of_ne_nil hrecords.1
  have hfull : (first :: rest).any List.isEmpty = false := by
    rw [List.any_eq_false]
    intro record hmem
    rw [List.isEmpty_iff]
    exact hrecords.2 record hmem
  rw [task, insertTask, if_neg (by simpa using hcolumns), if_neg (by simp [hwhere]),
    if_neg (by simp [hfull])]

/-- The text of an insertion gives the widths of its records and the parameters their values, up to
any relation between values. What follows the records, in the text and in the parameters, is the
same for all records. -/
theorem forall₂_records {scope : Scope} {columns : List String} {records others : List (List Value)}
    (hrecords : records ≠ []) (hothers : others ≠ []) {R : Value → Value → Prop}
    (hsql : scope.spelled Value.mark (.insertRecords columns records) =
      scope.spelled Value.mark (.insertRecords columns others))
    (hparams : List.Forall₂ R (scope.operands (.insertRecords columns records))
      (scope.operands (.insertRecords columns others))) :
    List.Forall₂ (List.Forall₂ R) records others := by
  simp only [spelled, appendClauses_eq, String.append_left_inj, String.append_right_inj] at hsql
  have hwidths := widths_of_rows hrecords hothers hsql
  have hlength : records.flatten.length = others.flatten.length := by
    rw [List.length_flatten, List.length_flatten, hwidths]
  exact forall₂_of_flatten hwidths (forall₂_of_append hlength hparams).1

end Scope

/-- Insertions lose no record and merge none with another: without a condition, the statements for
two lists of records, whatever the widths of the records, the names and the assignments for rows
that are there already, are the same only if the lists are, record by record and value by value.
The same holds of the equality that compares floating-point numbers as numbers, so that the two
zeros are equal and what is not a number differs from itself. -/
theorem records_of_insert_statement (scope : Scope) (hwhere : scope.clauses.hasWhere = false)
    {columns : List String} (hcolumns : columns ≠ []) {records others : List (List Value)}
    (hrecords : records ≠ [] ∧ ∀ record ∈ records, record ≠ [])
    (hothers : others ≠ [] ∧ ∀ record ∈ others, record ≠ []) :
    let statement := scope.statement (.insert columns records)
    let statement' := scope.statement (.insert columns others)
    (statement = statement' → records = others) ∧
      ((statement == statement') = true → (records == others) = true) := by
  intro statement statement'
  have hstatement : statement = ⟨_, _⟩ := scope.statement_eq (.insert columns records)
  have hstatement' : statement' = ⟨_, _⟩ := scope.statement_eq (.insert columns others)
  rw [Scope.task_insert hwhere hcolumns hrecords] at hstatement
  rw [Scope.task_insert hwhere hcolumns hothers] at hstatement'
  rw [hstatement, hstatement']
  constructor
  · intro h
    obtain ⟨hsql, hparams⟩ := Statement.mk.inj h
    have heq := Scope.forall₂_records hrecords.1 hothers.1 hsql
      (List.forall₂_eq_eq_eq ▸ hparams)
    rwa [List.forall₂_eq_eq_eq, List.forall₂_eq_eq_eq] at heq
  · intro h
    obtain ⟨hsql, hparams⟩ := Statement.beq_iff.mp h
    have halike := Scope.forall₂_records hrecords.1 hothers.1 hsql (beq_iff_forall₂.mp hparams)
    rw [beq_iff_forall₂]
    exact halike.imp fun _ _ => beq_iff_forall₂.mpr

/-- Records that have the same values in a row and are as many, yet end in other places; the names
look like rows, and one value is assigned to a row that is there already. -/
theorem insert_statements_of_shifted_values :
    let scope : Scope :=
      { table := "t) VALUES (?",
        clauses := .ofSteps [.onDuplicateKey (.ofPairs [("(?), (?,?)", .null)])] }
    let records : List (List Value) := [[.null], [.bool true, .text "a"]]
    let others : List (List Value) := [[.null, .bool true], [.text "a"]]
    (scope.clauses.hasWhere = false ∧ records.flatten = others.flatten) ∧
      scope.statement (.insert ["(?), (?", "b"] records) ≠
        scope.statement (.insert ["(?), (?", "b"] others) := by
  intro scope records others
  refine ⟨⟨rfl, rfl⟩, ?_⟩
  intro h
  have hrecords := (records_of_insert_statement scope rfl (List.cons_ne_nil _ _)
    ⟨List.cons_ne_nil _ _, by simp⟩ ⟨List.cons_ne_nil _ _, by simp⟩).1 h
  cases hrecords

end BoundSql
