import BoundSql.Proofs.Clauses.Tests
import BoundSql.Proofs.Identifier
import BoundSql.Proofs.Statement.Spelling
import BoundSql.Proofs.Text.Pieces

/-!
Putting values in the place of the question marks of a statement, one after the other. As long as no
name brings a question mark of its own, the marks and the parameters of every statement match up
one to one, and each value comes to stand where its operand belongs: what results is the text of the
same task with the values spelled out in place.

Texts, values and results are built up side by side; `Fills` relates the three, and every lemma on
it follows one way of building a text.
-/

namespace BoundSql

/-- Replaces the question marks of a text by the spelled values, in order. There is no result when
a mark or a value is left over. -/
def fillMarks (spell : Value → String) : List Char → List Value → Option (List Char)
  | [], [] => some []
  | [], _ :: _ => none
  | c :: rest, values =>
      if c = '?' then
        match values with
        | [] => none
        | value :: values => (fillMarks spell rest values).map ((spell value).toList ++ ·)
      else (fillMarks spell rest values).map (c :: ·)

/-- The text of a statement with its parameters in the place of its question marks. -/
def Statement.fill (spell : Value → String) (statement : Statement) : Option String :=
  (fillMarks spell statement.sql.toList statement.params).map String.ofList

/-- Filling the marks of a text with some values uses both up and gives a result. -/
def Fills (spell : Value → String) (text : String) (values : List Value) (result : String) :
    Prop :=
  fillMarks spell text.toList values = some result.toList

/-- A text without a question mark. -/
def Markless (text : String) : Prop :=
  '?' ∉ text.toList

instance (text : String) : Decidable (Markless text) :=
  inferInstanceAs (Decidable ('?' ∉ text.toList))

@[simp]
theorem markless_append {front back : String} :
    Markless (front ++ back) ↔ Markless front ∧ Markless back := by
  simp [Markless]

section Fills

variable {spell : Value → String}

private theorem fillMarks_mark (rest : List Char) (value : Value) (values : List Value) :
    fillMarks spell ('?' :: rest) (value :: values) =
      (fillMarks spell rest values).map ((spell value).toList ++ ·) := by
  simp [fillMarks]

private theorem fillMarks_mark_nil (rest : List Char) :
    fillMarks spell ('?' :: rest) [] = none := by
  simp [fillMarks]

private theorem fillMarks_other {c : Char} (hc : c ≠ '?') (rest : List Char)
    (values : List Value) :
    fillMarks spell (c :: rest) values = (fillMarks spell rest values).map (c :: ·) := by
  cases values <;> simp [fillMarks, hc]

/-- Two texts whose marks are filled on their own are filled together, the values of the first
before those of the second. -/
private theorem fillMarks_append {front back resultFront resultBack : List Char}
    {valuesFront valuesBack : List Value}
    (hfront : fillMarks spell front valuesFront = some resultFront)
    (hback : fillMarks spell back valuesBack = some resultBack) :
    fillMarks spell (front ++ back) (valuesFront ++ valuesBack) =
      some (resultFront ++ resultBack) := by
  induction front generalizing valuesFront resultFront with
  | nil =>
      cases valuesFront with
      | nil =>
          cases hfront
          exact hback
      | cons value values => cases hfront
  | cons c rest ih =>
      by_cases hc : c = '?'
      · subst hc
        cases valuesFront with
        | nil =>
            rw [fillMarks_mark_nil] at hfront
            cases hfront
        | cons value values =>
            rw [fillMarks_mark] at hfront
            obtain ⟨filled, hfilled, rfl⟩ := Option.map_eq_some_iff.mp hfront
            rw [List.cons_append, List.cons_append, fillMarks_mark, ih hfilled,
              List.append_assoc]
            rfl
      · rw [fillMarks_other hc] at hfront
        obtain ⟨filled, hfilled, rfl⟩ := Option.map_eq_some_iff.mp hfront
        rw [List.cons_append, fillMarks_other hc, ih hfilled]
        rfl

theorem Fills.append {front back resultFront resultBack : String}
    {valuesFront valuesBack : List Value} (hfront : Fills spell front valuesFront resultFront)
    (hback : Fills spell back valuesBack resultBack) :
    Fills spell (front ++ back) (valuesFront ++ valuesBack) (resultFront ++ resultBack) := by
  rw [Fills, String.toList_append, String.toList_append]
  exact fillMarks_append hfront hback

/-- A text without a mark takes no value and stays as it is. -/
theorem fills_markless {text : String} (h : Markless text) : Fills spell text [] text := by
  rw [Markless] at h
  rw [Fills]
  generalize text.toList = chars at h
  induction chars with
  | nil => rfl
  | cons c rest ih =>
      obtain ⟨hc, hrest⟩ := List.ne_and_not_mem_of_not_mem_cons h
      rw [fillMarks_other hc.symm, ih hrest]
      rfl

theorem fills_mark (value : Value) : Fills spell value.mark [value] (spell value) := by
  rw [Fills, Value.toList_mark, fillMarks_mark, fillMarks, Option.map_some, List.append_nil]

/-- Filling goes piece by piece. -/
theorem composes_fills : Text.Composes (Fills spell) :=
  ⟨rfl, Fills.append⟩

/-- A fixed text in front. -/
theorem Fills.after {front text result : String} {values : List Value}
    (htext : Fills spell text values result) (hfront : Markless front) :
    Fills spell (front ++ text) values (front ++ result) :=
  composes_fills.after (fills_markless hfront) htext

/-- A fixed text behind. -/
theorem Fills.before {back text result : String} {values : List Value}
    (htext : Fills spell text values result) (hback : Markless back) :
    Fills spell (text ++ back) values (result ++ back) :=
  composes_fills.before (fills_markless hback) htext

/-- The elements of a list are filled one after the other. -/
theorem fills_intercalate {α : Type} {separator : String} (hseparator : Markless separator)
    (text : α → String) (values : α → List Value) (result : α → String) (xs : List α)
    (hfills : ∀ x ∈ xs, Fills spell (text x) (values x) (result x)) :
    Fills spell (separator.intercalate (xs.map text)) (xs.flatMap values)
      (separator.intercalate (xs.map result)) :=
  composes_fills.intercalate (fills_markless hseparator) text values result xs hfills

theorem fills_marks (values : List Value) :
    Fills spell (",".intercalate (values.map Value.mark)) values
      (",".intercalate (values.map spell)) := by
  have hcomma : Markless "," := by decide
  have h := fills_intercalate hcomma Value.mark (fun value => [value]) spell values
    (fun value _ => fills_mark value)
  rwa [List.flatMap_singleton'] at h

/-- Quoting puts no question mark into a name. -/
@[simp]
theorem markless_quote {name : String} (h : Markless name) : Markless (Identifier.quote name) := by
  intro hmem
  rcases Identifier.mem_quote hmem with hname | hmark
  · exact h hname
  · exact absurd hmark (by decide)

@[simp]
theorem markless_negation (negated : Bool) : Markless (negation negated) := by
  cases negated <;> decide

@[simp]
theorem markless_connective (connective : Connective) : Markless connective.text := by
  cases connective <;> decide

/-- The text of most predicates before their first operand. -/
private theorem markless_front {column : String} (hcolumn : Markless column) (negated : Bool)
    (keyword : String) (hkeyword : Markless keyword) :
    Markless (Identifier.quote column ++ " " ++ negation negated ++ keyword) := by
  simp +decide [hcolumn, hkeyword]

/-- The marks of a predicate are filled by its operands, in the order in which they are written. -/
theorem Predicate.fills_spelled (predicate : Predicate) {column : String}
    (hcolumn : Markless column) (hsymbols : ∀ symbol ∈ predicate.symbols, Markless symbol) :
    Fills spell (predicate.spelled Value.mark column) predicate.operands
      (predicate.spelled spell column) := by
  cases predicate with
  | compare symbol value =>
      have hfront : Markless (Identifier.quote column ++ symbol) :=
        markless_append.mpr ⟨markless_quote hcolumn, hsymbols symbol List.mem_cons_self⟩
      exact (fills_mark value).after hfront
  | between lower upper negated =>
      have hfront := markless_front hcolumn negated "BETWEEN " (by decide)
      exact (((fills_mark lower).after hfront).before (by decide)).append (fills_mark upper)
  | inList values negated =>
      have hfront := markless_front hcolumn negated "IN (" (by decide)
      exact ((fills_marks values).after hfront).before (by decide)
  | like value wildcard negated =>
      exact (fills_mark _).after (markless_front hcolumn negated "LIKE " (by decide))
  | isNull negated =>
      have htext : Markless (Identifier.quote column ++ " IS " ++ negation negated ++ "NULL") := by
        simp +decide [hcolumn]
      exact fills_markless htext

mutual

/-- The text of a formula after its connective is filled by the operands of its tests. -/
theorem Formula.fills_body : ∀ formula : Formula, formula.leaves ≠ [] →
    (∀ name ∈ formula.names, Markless name) →
    (∀ leaf ∈ formula.leaves, ∀ symbol ∈ leaf.2.symbols, Markless symbol) →
    Fills spell (formula.body Value.mark) formula.operands (formula.body spell)
  | .test connective column predicate, _, hnames, hsymbols => by
      have hoperands : (Formula.test connective column predicate).operands =
          predicate.operands := by simp [Formula.operands, Formula.leaves]
      rw [hoperands]
      exact predicate.fills_spelled (hnames column List.mem_cons_self)
        (hsymbols (column, predicate) List.mem_cons_self)
  | .group connective members, _, hnames, hsymbols => by
      have hjoined := (Formula.fills_members members hnames hsymbols).1
      rw [Formula.body_group, Formula.body_group, Formula.length_survivors Value.mark spell]
      split
      · exact hjoined
      · exact (hjoined.after (by decide)).before (by decide)
  | .subquery connective table members negated, hleaves, hnames, hsymbols => by
      cases htable : table.isEmpty with
      | true =>
          exact absurd (Formula.leaves_subquery_without_table htable connective members negated)
            hleaves
      | false =>
          have hmembers := Formula.leaves_subquery htable connective members negated
          rw [hmembers] at hleaves hsymbols
          rw [Formula.names_subquery htable hleaves] at hnames
          obtain ⟨hname, hmemberNames⟩ := List.forall_mem_cons.mp hnames
          have hjoined := (Formula.fills_members members hmemberNames hsymbols).1
          have hfront : Markless (negation negated ++ "EXISTS (SELECT * FROM " ++
              Identifier.quote table ++ " WHERE ") := by
            simp +decide [hname]
          rw [Formula.operands, hmembers]
          exact (hjoined.after hfront).before (by decide)

/-- Members are filled one by one, whether or not the connective of the first is written. -/
theorem Formula.fills_members : ∀ members : List Formula,
    (∀ name ∈ Formula.memberNames members, Markless name) →
    (∀ leaf ∈ Formula.memberLeaves members, ∀ symbol ∈ leaf.2.symbols, Markless symbol) →
    Fills spell (joined (Formula.survivors Value.mark members)) (Formula.memberOperands members)
        (joined (Formula.survivors spell members)) ∧
      Fills spell (continued (Formula.survivors Value.mark members))
        (Formula.memberOperands members) (continued (Formula.survivors spell members))
  | [], _, _ => ⟨rfl, rfl⟩
  | formula :: rest, hnames, hsymbols => by
      obtain ⟨hfirstNames, hrestNames⟩ := List.forall_mem_append.mp hnames
      obtain ⟨hfirstSymbols, hrestSymbols⟩ := List.forall_mem_append.mp hsymbols
      have hrest := Formula.fills_members rest hrestNames hrestSymbols
      rw [Formula.memberOperands_cons]
      by_cases hleaves : formula.leaves = []
      · rw [Formula.survivors_cons_of_leaves_eq_nil _ hleaves,
          Formula.survivors_cons_of_leaves_eq_nil _ hleaves,
          Formula.operands_of_leaves_eq_nil hleaves]
        exact hrest
      · have hbody := Formula.fills_body formula hleaves hfirstNames hfirstSymbols
        have hfront : Markless (" " ++ formula.connective.text ++ " ") := by
          simp +decide
        rw [Formula.survivors_cons_of_leaves_ne_nil _ hleaves,
          Formula.survivors_cons_of_leaves_ne_nil _ hleaves]
        exact ⟨hbody.append hrest.2, (hbody.after hfront).append hrest.2⟩

end

theorem markless_intercalate {separator : String} (hseparator : Markless separator)
    {texts : List String} (h : ∀ text ∈ texts, Markless text) :
    Markless (separator.intercalate texts) :=
  Text.notMem_intercalate hseparator h

theorem markless_quoteList {names : List String} (h : ∀ name ∈ names, Markless name) :
    Markless (Identifier.quoteList names) := by
  refine markless_intercalate (by decide) ?_
  intro text htext
  obtain ⟨name, hname, rfl⟩ := List.mem_map.mp htext
  exact markless_quote (h name hname)

@[simp]
theorem markless_repr (count : Nat) : Markless count.repr :=
  Text.notMem_repr (by decide) count

namespace Clauses

theorem markless_forceIndexText (clauses : Clauses)
    (h : ∀ name ∈ clauses.forceIndex.toList, Markless name) :
    Markless clauses.forceIndexText := by
  rw [forceIndexText]
  match hindex : clauses.forceIndex with
  | none => decide
  | some name =>
      have hname : Markless name := h name (by simp [hindex])
      simp +decide [hname]

theorem markless_groupByText (clauses : Clauses) (h : ∀ name ∈ clauses.groupBy, Markless name) :
    Markless clauses.groupByText := by
  rw [groupByText]
  split
  · decide
  · simp +decide [markless_quoteList h]

/-- Columns to sort by are quoted when their step is made, and are written here as they are. -/
theorem markless_orderByText (clauses : Clauses)
    (h : ∀ name ∈ clauses.sortColumns, Markless name) : Markless clauses.orderByText := by
  have hkeys : ∀ text ∈ clauses.orderBy.map SortKey.text, Markless text := by
    intro text htext
    obtain ⟨key, hkey, rfl⟩ := List.mem_map.mp htext
    have hcolumn : Markless key.column := h key.column (List.mem_map_of_mem hkey)
    rw [SortKey.text]
    cases key.direction with
    | ascending => simp +decide [hcolumn]
    | descending => simp +decide [hcolumn]
  rw [orderByText]
  split
  · decide
  · exact markless_append.mpr ⟨by decide, markless_intercalate (by decide) hkeys⟩

theorem markless_limitText (clauses : Clauses) : Markless clauses.limitText := by
  rw [limitText]
  match clauses.limit with
  | none => decide
  | some count => simp +decide

theorem markless_offsetText (clauses : Clauses) : Markless clauses.offsetText := by
  rw [offsetText]
  match clauses.offset with
  | none => decide
  | some count => simp +decide

theorem markless_forUpdateText (clauses : Clauses) : Markless clauses.forUpdateText := by
  rw [forUpdateText]
  split <;> decide

end Clauses

/-- A clause with values, filled. Either both the clause and its result are left out or neither. -/
structure FillsClause (spell : Value → String) (clause : String) (values : List Value)
    (result : String) : Prop where
  fills : Fills spell clause values result
  isEmpty_eq : clause.isEmpty = result.isEmpty

theorem fillsClause_markless {clause : String} (h : Markless clause) :
    FillsClause spell clause [] clause :=
  ⟨fills_markless h, rfl⟩

/-- The clause of no text has no values. -/
theorem fillsClause_empty : FillsClause spell "" [] "" :=
  ⟨rfl, rfl⟩

/-- A clause that begins with a keyword is there, whatever follows. -/
theorem Fills.clause {keyword text result : String} {values : List Value}
    (htext : Fills spell text values result) (hkeyword : Markless keyword)
    (hne : keyword ≠ "") :
    FillsClause spell (keyword ++ text) values (keyword ++ result) := by
  have hleft : (keyword ++ text).isEmpty = false := by simp [hne]
  have hright : (keyword ++ result).isEmpty = false := by simp [hne]
  exact ⟨htext.after hkeyword, hleft.trans hright.symm⟩

/-- Where a clause has no text, it leaves no space and no values behind either. -/
theorem FillsClause.cons {clause result : String} {values restValues : List Value}
    {rest results : List String} (hclause : FillsClause spell clause values result)
    (hrest : Fills spell (spacedClauses rest) restValues (spacedClauses results)) :
    Fills spell (spacedClauses (clause :: rest)) (values ++ restValues)
      (spacedClauses (result :: results)) := by
  rw [spacedClauses, spacedClauses, ← hclause.isEmpty_eq]
  cases hempty : clause.isEmpty with
  | true =>
      have hresult : result.isEmpty = true := hclause.isEmpty_eq ▸ hempty
      have hfills := hclause.fills
      rw [String.isEmpty_iff.mp hempty, String.isEmpty_iff.mp hresult] at hfills
      exact hfills.append hrest
  | false => exact (hclause.fills.after (by decide)).append hrest

theorem FillsClause.alone {clause result : String} {values : List Value}
    (hclause : FillsClause spell clause values result) :
    Fills spell (spacedClauses [clause]) values (spacedClauses [result]) := by
  have hnone : Fills spell (spacedClauses []) [] (spacedClauses []) := rfl
  simpa using hclause.cons hnone

theorem markless_spacedClauses {clauses : List String} (h : ∀ clause ∈ clauses, Markless clause) :
    Markless (spacedClauses clauses) := by
  induction clauses with
  | nil => decide
  | cons clause rest ih =>
      obtain ⟨hclause, hrest⟩ := List.forall_mem_cons.mp h
      have hspaced : Markless (if clause.isEmpty then "" else " " ++ clause) := by
        split
        · decide
        · simp +decide [hclause]
      exact markless_append.mpr ⟨hspaced, ih hrest⟩

/-- Assignments are filled by their values, in the order of their columns. -/
theorem fills_assignments (assignments : Assignments)
    (h : ∀ column ∈ assignments.keys, Markless column) :
    Fills spell (spelledAssignments Value.mark assignments) (assignedValues assignments)
      (spelledAssignments spell assignments) := by
  have hentries : ∀ entry ∈ assignments.entries,
      Fills spell (Identifier.quote entry.1 ++ "=" ++ Value.mark entry.2) [entry.2]
        (Identifier.quote entry.1 ++ "=" ++ spell entry.2) := by
    intro entry hentry
    have hcolumn : Markless entry.1 := h entry.1 (List.mem_map_of_mem hentry)
    have hfront : Markless (Identifier.quote entry.1 ++ "=") := by
      simp +decide [hcolumn]
    exact (fills_mark entry.2).after hfront
  have hall := fills_intercalate (by decide : Markless ", ") _ (fun entry => [entry.2]) _
    assignments.entries hentries
  rwa [← List.map_eq_flatMap] at hall

namespace Clauses

/-- A condition is filled by its operands. If no test is left in it, the clause is missing and there
are no operands. -/
theorem fills_where (clauses : Clauses) (hnames : ∀ name ∈ clauses.filter.names, Markless name)
    (hsymbols : ∀ symbol ∈ clauses.filter.symbols, Markless symbol) :
    FillsClause spell (clauses.spelledWhere Value.mark) clauses.filter.operands
      (clauses.spelledWhere spell) := by
  have hleafSymbols : ∀ leaf ∈ clauses.filter.leaves, ∀ symbol ∈ leaf.2.symbols,
      Markless symbol := Filter.forall_mem_symbols.mp hsymbols
  have hfilter : Fills spell (clauses.filter.spelled Value.mark) clauses.filter.operands
      (clauses.filter.spelled spell) :=
    (Formula.fills_members clauses.filter.members hnames hleafSymbols).1
  rw [spelledWhere, spelledWhere]
  by_cases hleaves : clauses.filter.leaves = []
  · have hoperands : clauses.filter.operands = [] := by
      rw [Filter.operands, Formula.memberOperands, ← Filter.leaves, hleaves, List.flatMap_nil]
    have hempty : clauses.filter.leaves.isEmpty = true := List.isEmpty_iff.mpr hleaves
    rw [if_pos hempty, if_pos hempty, hoperands]
    exact fillsClause_empty
  · have hempty : ¬ clauses.filter.leaves.isEmpty = true := List.isEmpty_iff.not.mpr hleaves
    rw [if_neg hempty, if_neg hempty]
    exact hfilter.clause (by decide) (by decide)

/-- Assignments of an empty map are no clause, and have no values. -/
theorem fills_onDuplicateKey (clauses : Clauses)
    (h : ∀ column ∈ clauses.duplicateKeyColumns, Markless column) :
    FillsClause spell (clauses.spelledOnDuplicateKey Value.mark) clauses.duplicateKeyValues
      (clauses.spelledOnDuplicateKey spell) := by
  rw [spelledOnDuplicateKey, spelledOnDuplicateKey, duplicateKeyValues]
  rw [duplicateKeyColumns] at h
  revert h
  cases clauses.onDuplicateKey with
  | none =>
      intro _
      exact fillsClause_empty
  | some assignments =>
      intro h
      change FillsClause spell (if assignments.isEmpty then "" else _)
        (assignedValues assignments) (if assignments.isEmpty then "" else _)
      by_cases hempty : assignments.isEmpty
      · have hvalues : assignedValues assignments = [] := by
          rw [assignedValues, List.isEmpty_iff.mp hempty, List.map_nil]
        rw [if_pos hempty, if_pos hempty, hvalues]
        exact fillsClause_empty
      · rw [if_neg hempty, if_neg hempty]
        exact (fills_assignments assignments h).clause (by decide) (by decide)

end Clauses

namespace Scope

/-- Before the data of an insertion there are only names. -/
theorem markless_insertHead (scope : Scope) (columns : List String)
    (h : ∀ name ∈ scope.table :: columns, Markless name) :
    Markless (scope.insertHead columns) := by
  obtain ⟨htable, hcolumns⟩ := List.forall_mem_cons.mp h
  unfold insertHead
  simp +decide [htable, markless_quoteList hcolumns]

/-- What follows the condition of an update or a deletion has no values. -/
private theorem markless_lastClauses (clauses : Clauses)
    (hsort : ∀ name ∈ clauses.sortColumns, Markless name) :
    Markless (spacedClauses [clauses.orderByText, clauses.limitText, clauses.offsetText]) := by
  apply markless_spacedClauses
  intro clause hclause
  simp only [List.mem_cons, List.not_mem_nil, or_false] at hclause
  rcases hclause with rfl | rfl | rfl
  · exact clauses.markless_orderByText hsort
  · exact clauses.markless_limitText
  · exact clauses.markless_offsetText

/-- In a selection the condition alone has values. -/
private theorem fills_select (scope : Scope) (columns : List String)
    (hnames : ∀ name ∈ scope.names (.select columns), Markless name)
    (hsymbols : ∀ symbol ∈ scope.clauses.filter.symbols, Markless symbol) :
    Fills spell (scope.spelled Value.mark (.select columns)) (scope.operands (.select columns))
      (scope.spelled spell (.select columns)) := by
  simp only [names, List.forall_mem_append, List.forall_mem_cons] at hnames
  obtain ⟨⟨⟨⟨hcolumns, htable, hindex⟩, hfilter⟩, hgroup⟩, hsort⟩ := hnames
  have hcolumnList : Markless (if columns.isEmpty then "*" else Identifier.quoteList columns) := by
    split
    · decide
    · exact markless_quoteList hcolumns
  have hhead : Markless ("SELECT " ++
      (if columns.isEmpty then "*" else Identifier.quoteList columns) ++ " FROM " ++
        Identifier.quote scope.table) := by
    simp only [markless_append]
    refine ⟨⟨⟨?_, hcolumnList⟩, ?_⟩, markless_quote htable⟩ <;> decide
  have hforce : FillsClause spell _ _ _ :=
    fillsClause_markless (scope.clauses.markless_forceIndexText hindex)
  have hwhere : FillsClause spell _ _ _ := scope.clauses.fills_where hfilter hsymbols
  have hrest : Markless (spacedClauses [scope.clauses.groupByText, scope.clauses.orderByText,
      scope.clauses.limitText, scope.clauses.offsetText, scope.clauses.forUpdateText]) := by
    apply markless_spacedClauses
    intro clause hclause
    simp only [List.mem_cons, List.not_mem_nil, or_false] at hclause
    rcases hclause with rfl | rfl | rfl | rfl | rfl
    · exact scope.clauses.markless_groupByText hgroup
    · exact scope.clauses.markless_orderByText hsort
    · exact scope.clauses.markless_limitText
    · exact scope.clauses.markless_offsetText
    · exact scope.clauses.markless_forUpdateText
  have hclauses := hforce.cons (hwhere.cons (fills_markless hrest))
  rw [List.nil_append, List.append_nil] at hclauses
  rw [spelled, spelled, appendClauses_eq, appendClauses_eq]
  exact hclauses.after hhead

/-- In an update the assigned values come first, then those of the condition. -/
private theorem fills_update (scope : Scope) (assignments : Assignments)
    (hnames : ∀ name ∈ scope.names (.update assignments), Markless name)
    (hsymbols : ∀ symbol ∈ scope.clauses.filter.symbols, Markless symbol) :
    Fills spell (scope.spelled Value.mark (.update assignments))
      (scope.operands (.update assignments)) (scope.spelled spell (.update assignments)) := by
  simp only [names, List.forall_mem_append, List.forall_mem_cons] at hnames
  obtain ⟨⟨⟨htable, hkeys⟩, hfilter⟩, hsort⟩ := hnames
  have hhead : Markless ("UPDATE " ++ Identifier.quote scope.table) := by
    simp +decide [htable]
  have hset : FillsClause spell ("SET " ++ _) _ _ :=
    (fills_assignments assignments hkeys).clause (by decide) (by decide)
  have hwhere : FillsClause spell _ _ _ := scope.clauses.fills_where hfilter hsymbols
  have hrest := markless_lastClauses scope.clauses hsort
  have hclauses := hset.cons (hwhere.cons (fills_markless hrest))
  rw [List.append_nil] at hclauses
  rw [spelled, spelled, appendClauses_eq, appendClauses_eq]
  exact hclauses.after hhead

private theorem fills_delete (scope : Scope)
    (hnames : ∀ name ∈ scope.names .delete, Markless name)
    (hsymbols : ∀ symbol ∈ scope.clauses.filter.symbols, Markless symbol) :
    Fills spell (scope.spelled Value.mark .delete) (scope.operands .delete)
      (scope.spelled spell .delete) := by
  simp only [names, List.forall_mem_append, List.forall_mem_cons] at hnames
  obtain ⟨⟨htable, hfilter⟩, hsort⟩ := hnames
  have hhead : Markless ("DELETE FROM " ++ Identifier.quote scope.table) := by
    simp +decide [htable]
  have hwhere : FillsClause spell _ _ _ := scope.clauses.fills_where hfilter hsymbols
  have hrest := markless_lastClauses scope.clauses hsort
  have hclauses := hwhere.cons (fills_markless hrest)
  rw [List.append_nil] at hclauses
  rw [spelled, spelled, appendClauses_eq, appendClauses_eq]
  exact hclauses.after hhead

/-- The records of an insertion are filled row by row, and after them the assignments for rows that
are there already. -/
private theorem fills_insertRecords (scope : Scope) (columns : List String)
    (records : List (List Value))
    (hnames : ∀ name ∈ scope.names (.insertRecords columns records), Markless name) :
    Fills spell (scope.spelled Value.mark (.insertRecords columns records))
      (scope.operands (.insertRecords columns records))
      (scope.spelled spell (.insertRecords columns records)) := by
  obtain ⟨hheadNames, hduplicateColumns⟩ := List.forall_mem_append.mp hnames
  have hhead : Markless (scope.insertHead columns ++ " VALUES ") := by
    simp +decide [scope.markless_insertHead columns hheadNames]
  have hrow : ∀ record ∈ records,
      Fills spell (spelledRow Value.mark record) record (spelledRow spell record) := by
    intro record _
    exact ((fills_marks record).after (by decide)).before (by decide)
  have hrows := fills_intercalate (by decide : Markless ", ") _ id _ records hrow
  rw [List.flatMap_id] at hrows
  have hduplicate : FillsClause spell _ _ _ :=
    scope.clauses.fills_onDuplicateKey hduplicateColumns
  rw [spelled, spelled, appendClauses_eq, appendClauses_eq]
  exact (hrows.after hhead).append hduplicate.alone

/-- An insertion with a condition has one record, whose values come before those of the condition.
-/
private theorem fills_insertIf (scope : Scope) (columns : List String) (record : List Value)
    (hnames : ∀ name ∈ scope.names (.insertIf columns record), Markless name)
    (hsymbols : ∀ symbol ∈ scope.clauses.filter.symbols, Markless symbol) :
    Fills spell (scope.spelled Value.mark (.insertIf columns record))
      (scope.operands (.insertIf columns record))
      (scope.spelled spell (.insertIf columns record)) := by
  obtain ⟨hheadNames, hfilter⟩ := List.forall_mem_append.mp hnames
  have hhead : Markless (scope.insertHead columns ++ " SELECT ") := by
    simp +decide [scope.markless_insertHead columns hheadNames]
  have hback : Markless " FROM dual" := by decide
  have hrow : Fills spell _ _ _ := ((fills_marks record).after hhead).before hback
  have hwhere : FillsClause spell _ _ _ := scope.clauses.fills_where hfilter hsymbols
  rw [spelled, spelled, appendClauses_eq, appendClauses_eq]
  exact hrow.append hwhere.alone

/-- The marks of every task match its operands, and filling them spells the task out. -/
theorem fills_spelled (scope : Scope) (task : Task)
    (hnames : ∀ name ∈ scope.names task, Markless name)
    (hsymbols : ∀ symbol ∈ scope.clauses.filter.symbols, Markless symbol) :
    Fills spell (scope.spelled Value.mark task) (scope.operands task)
      (scope.spelled spell task) := by
  cases task with
  | nothing => rfl
  | select columns => exact scope.fills_select columns hnames hsymbols
  | update assignments => exact scope.fills_update assignments hnames hsymbols
  | delete => exact scope.fills_delete hnames hsymbols
  | insertRecords columns records => exact scope.fills_insertRecords columns records hnames
  | insertIf columns record => exact scope.fills_insertIf columns record hnames hsymbols

end Scope

end Fills

/-- Putting the parameters of a statement in the place of its question marks uses up both and gives
the text of the task with its values spelled out, for every call on every scope, as long as no name
in the text has a question mark in it. A symbol that is made up by the caller must not have one
either; predicates that are made by the named comparisons bring none along
(`Clauses.forall_mem_symbols_ofSteps`). -/
theorem fill_statement_eq_spelled (scope : Scope) (call : Call) (spell : Value → String)
    (hnames : ∀ name ∈ scope.names (scope.task call), Markless name)
    (hsymbols : ∀ symbol ∈ scope.clauses.filter.symbols, Markless symbol) :
    (scope.statement call).fill spell = some (scope.spelled spell (scope.task call)) := by
  have hfills : Fills spell _ _ _ := scope.fills_spelled (scope.task call) hnames hsymbols
  rw [Fills] at hfills
  rw [scope.statement_eq call, Statement.fill, hfills, Option.map_some, String.ofList_toList]

/-- A question mark in a value is no mark: the pattern comes to stand in its place as it is. -/
theorem fill_update_with_question_mark_in_pattern :
    let scope : Scope :=
      { table := "user"
        clauses := .ofSteps
          [.orAllOf (.ofPairs
              [("name", .like (.text "o?") .contains true), ("age", .inList [] false)]),
            .andExists "order" (.ofPairs [("id", .between (.int 1) (.int 2) false)])] }
    let call : Call := .update (some (.ofPairs [("a", .bool true), ("b", .null)]))
    (∀ name ∈ scope.names (scope.task call), Markless name) ∧
      (∀ symbol ∈ scope.clauses.filter.symbols, Markless symbol) ∧
      (scope.statement call).fill Value.display =
        some ("UPDATE `user` SET `a`=true, `b`=NULL " ++
          "WHERE (`name` NOT LIKE %o?% AND `age` IN ()) " ++
          "AND EXISTS (SELECT * FROM `order` WHERE `id` BETWEEN 1 AND 2)") := by
  intro scope call
  have hnames : ∀ name ∈ scope.names (scope.task call), Markless name := by decide
  have hsymbols : ∀ symbol ∈ scope.clauses.filter.symbols, Markless symbol :=
    Clauses.forall_mem_symbols_ofSteps (by decide) (by decide)
  refine ⟨hnames, hsymbols, ?_⟩
  rw [fill_statement_eq_spelled scope call Value.display hnames hsymbols]
  decide +kernel

end BoundSql
