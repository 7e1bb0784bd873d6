import BoundSql.Proofs.Formula.NormalForm
import BoundSql.Proofs.Identifier

/-!
Conditions are read back from their text. With plain names and the usual symbols, the text of a
condition and its parameters determine the normal form of the condition: no two conditions that mean
different things are written alike.

A formula in normal form ends where its text says so, whatever follows: its first character tells of
which sort it is, and after that every piece is either one of several fixed codes or ends at a mark.
A chain ends where no further space follows.
-/

namespace BoundSql

/-- The forms of tests that can be read. -/
def TestForm.known : List TestForm :=
  Predicate.comparisonSymbols.map .compare ++
    [false, true].flatMap fun negated =>
      [.between negated, .inList negated, .like negated, .isNull negated]

/-- The word AND between two bounds belongs to a fixed opening, so it is never taken for a
connective. -/
theorem TestForm.prefixCode_opening : Text.PrefixCode opening known := by
  decide

mutual

/-- All names are plain, and the form of every test is known. -/
def NormalForm.IsReadable : NormalForm → Prop
  | .test column test => Identifier.IsPlain column ∧ test.form ∈ TestForm.known
  | .group first rest => first.IsReadable ∧ rest.IsReadable
  | .subquery table first rest _ =>
      Identifier.IsPlain table ∧ first.IsReadable ∧ rest.IsReadable

def Chain.IsReadable : Chain → Prop
  | .nil => True
  | .cons _ first rest => first.IsReadable ∧ rest.IsReadable

end

private theorem count_marks (values : List Value) :
    (",".intercalate (values.map Value.mark)).toList.count '?' = values.length := by
  induction values with
  | nil => rfl
  | cons value rest ih =>
      cases rest with
      | nil => simp
      | cons next rest =>
          have hcomma : ",".toList.count '?' = 0 := rfl
          rw [List.map_cons, List.map_cons, String.intercalate_cons_cons, ← List.map_cons,
            String.toList_append, String.toList_append, List.count_append, List.count_append, ih,
            hcomma, Value.toList_mark, List.length_cons, List.length_cons]
          simp [Nat.add_comm]

/-- A list of placeholders does not close a parenthesis. -/
private theorem parenthesis_notMem_marks (values : List Value) :
    ')' ∉ (",".intercalate (values.map Value.mark)).toList := by
  apply Text.notMem_intercalate (by decide)
  intro text htext
  obtain ⟨value, _, rfl⟩ := List.mem_map.mp htext
  rw [Value.toList_mark]
  decide

/-- The marks of a list tell how many values it has. -/
theorem read_marks {values values' : List Value} {rest rest' : List Char}
    (h : (",".intercalate (values.map Value.mark) ++ ")").toList ++ rest =
      (",".intercalate (values'.map Value.mark) ++ ")").toList ++ rest') :
    values.length = values'.length ∧ rest = rest' := by
  simp only [String.toList_append, List.append_assoc] at h
  obtain ⟨hmarks, hrest⟩ := Text.read_until (parenthesis_notMem_marks values)
    (parenthesis_notMem_marks values') h
  refine ⟨?_, hrest⟩
  rw [← count_marks values, ← count_marks values', hmarks]

namespace NormalTest

/-- Two tests of one form are told apart by what follows their openings and by their operands. -/
theorem read_closing {test test' : NormalTest} (hform : test.form = test'.form)
    {rest rest' : List Char} (htext : test.closing.toList ++ rest = test'.closing.toList ++ rest')
    {values values' : List Value} (hvalues : test.operands ++ values = test'.operands ++ values') :
    test = test' ∧ rest = rest' ∧ values = values' := by
  cases test with
  | compare symbol value =>
      cases test' with
      | compare symbol' value' =>
          cases hform
          cases hvalues
          exact ⟨rfl, htext, rfl⟩
      | _ => cases hform
  | between lower upper negated =>
      cases test' with
      | between lower' upper' negated' =>
          cases hform
          cases hvalues
          exact ⟨rfl, htext, rfl⟩
      | _ => cases hform
  | inList listed negated =>
      cases test' with
      | inList listed' negated' =>
          cases hform
          obtain ⟨hlength, hrest⟩ := read_marks htext
          obtain ⟨hlisted, htail⟩ := List.append_inj hvalues hlength
          change listed = listed' at hlisted
          exact ⟨by rw [hlisted], hrest, htail⟩
      | _ => cases hform
  | like pattern negated =>
      cases test' with
      | like pattern' negated' =>
          cases hform
          cases hvalues
          exact ⟨rfl, htext, rfl⟩
      | _ => cases hform
  | isNull negated =>
      cases test' with
      | isNull negated' =>
          cases hform
          exact ⟨rfl, htext, hvalues⟩
      | _ => cases hform

/-- A test is read back from its text and the values in it, together with the rest of both. -/
theorem read {column column' : String} {test test' : NormalTest}
    (hreadable : (NormalForm.test column test).IsReadable)
    (hreadable' : (NormalForm.test column' test').IsReadable) {rest rest' : List Char}
    (htext : (test.text column).toList ++ rest = (test'.text column').toList ++ rest')
    {values values' : List Value} (hvalues : test.operands ++ values = test'.operands ++ values') :
    (column = column' ∧ test = test') ∧ rest = rest' ∧ values = values' := by
  simp only [text, String.toList_append, List.append_assoc] at htext
  obtain ⟨hcolumn, hopening⟩ := Identifier.read_quote hreadable.1 hreadable'.1 htext
  obtain ⟨hform, hclosing⟩ :=
    TestForm.prefixCode_opening.read hreadable.2 hreadable'.2 hopening
  obtain ⟨htest, hrest⟩ := read_closing hform hclosing hvalues
  exact ⟨⟨hcolumn, htest⟩, hrest⟩

end NormalTest

/-- What a subquery has in front of its table. -/
def existsHead (negated : Bool) : String :=
  negation negated ++ "EXISTS (SELECT * FROM "

/-- A negated subquery does not begin like one that is not. -/
theorem prefixCode_existsHead : Text.PrefixCode existsHead [false, true] := by
  decide

/-- A connective with the spaces on both sides. -/
def spacedConnective (connective : Connective) : String :=
  " " ++ connective.text ++ " "

/-- No connective between two spaces is the beginning of another one. -/
theorem prefixCode_spacedConnective :
    Text.PrefixCode spacedConnective [.and, .or, .unknown] := by
  decide

theorem Connective.mem_all (connective : Connective) :
    connective ∈ [Connective.and, .or, .unknown] := by
  cases connective <;> decide

/-- The first character of a formula in normal form. -/
def NormalForm.lead : NormalForm → Char
  | .test _ _ => Identifier.mark
  | .group _ _ => '('
  | .subquery _ _ _ false => 'E'
  | .subquery _ _ _ true => 'N'

theorem NormalForm.head?_text {formula : NormalForm} (hreadable : formula.IsReadable) :
    formula.text.toList.head? = some formula.lead := by
  cases formula with
  | test column test =>
      have hcolumn := Identifier.toList_quote_of_isPlain hreadable.1
        (test.form.opening.toList ++ test.closing.toList)
      simp only [text, NormalTest.text, String.toList_append, List.append_assoc, hcolumn]
      rfl
  | group first rest => simp [text, lead]
  | subquery table first rest negated =>
      cases negated <;> simp [text, lead, negation]

/-- The first character tells a test, a group and a subquery apart. -/
theorem NormalForm.lead_eq {formula formula' : NormalForm} (hreadable : formula.IsReadable)
    (hreadable' : formula'.IsReadable) {rest rest' : List Char}
    (h : formula.text.toList ++ rest = formula'.text.toList ++ rest') :
    formula.lead = formula'.lead := by
  have hhead := congrArg List.head? h
  rw [List.head?_append, List.head?_append, head?_text hreadable, head?_text hreadable'] at hhead
  exact Option.some.inj hhead

/-- A formula is read back, along with its operands, from every text that begins with its own. -/
def NormalForm.ReadsBack (formula : NormalForm) : Prop :=
  ∀ {formula' : NormalForm} {rest rest' : List Char} {values values' : List Value},
    formula'.IsReadable →
    formula.text.toList ++ rest = formula'.text.toList ++ rest' →
    formula.operands ++ values = formula'.operands ++ values' →
    formula = formula' ∧ rest = rest' ∧ values = values'

/-- So is a chain, unless it could go on. -/
def Chain.ReadsBack (chain : Chain) : Prop :=
  ∀ {chain' : Chain} {rest rest' : List Char} {values values' : List Value},
    chain'.IsReadable → rest.head? ≠ some ' ' → rest'.head? ≠ some ' ' →
    chain.text.toList ++ rest = chain'.text.toList ++ rest' →
    chain.operands ++ values = chain'.operands ++ values' →
    chain = chain' ∧ rest = rest' ∧ values = values'

/-- Formulas up to the parenthesis behind them. -/
theorem read_members {first first' : NormalForm} {more more' : Chain} {rest rest' : List Char}
    {values values' : List Value} (hfirst : first.ReadsBack) (hmore : more.ReadsBack)
    (hreadable : first'.IsReadable) (hreadable' : more'.IsReadable)
    (htext : first.text.toList ++ (more.text.toList ++ ')' :: rest) =
      first'.text.toList ++ (more'.text.toList ++ ')' :: rest'))
    (hvalues : first.operands ++ (more.operands ++ values) =
      first'.operands ++ (more'.operands ++ values')) :
    (first = first' ∧ more = more') ∧ rest = rest' ∧ values = values' := by
  obtain ⟨hfirsts, htexts, hoperands⟩ := hfirst hreadable htext hvalues
  obtain ⟨hmores, hclosed, hrest⟩ :=
    hmore hreadable' (by simp) (by simp) htexts hoperands
  exact ⟨⟨hfirsts, hmores⟩, (List.cons.inj hclosed).2, hrest⟩

namespace NormalForm

theorem readsBack_test {column : String} {test : NormalTest}
    (hreadable : (NormalForm.test column test).IsReadable) :
    (NormalForm.test column test).ReadsBack := by
  intro formula' rest rest' values values' hreadable' htext hvalues
  have hlead := lead_eq hreadable hreadable' htext
  match formula' with
  | .test column' test' =>
      obtain ⟨⟨rfl, rfl⟩, hrest⟩ := NormalTest.read hreadable hreadable' htext hvalues
      exact ⟨rfl, hrest⟩
  | .group _ _ => cases hlead
  | .subquery _ _ _ false => cases hlead
  | .subquery _ _ _ true => cases hlead

theorem toList_text_group (first : NormalForm) (more : Chain) (rest : List Char) :
    (NormalForm.group first more).text.toList ++ rest =
      '(' :: (first.text.toList ++ (more.text.toList ++ ')' :: rest)) := by
  simp [text]

theorem readsBack_group {first : NormalForm} {more : Chain}
    (hreadable : (NormalForm.group first more).IsReadable) (hfirst : first.ReadsBack)
    (hmore : more.ReadsBack) : (NormalForm.group first more).ReadsBack := by
  intro formula' rest rest' values values' hreadable' htext hvalues
  have hlead := lead_eq hreadable hreadable' htext
  match formula' with
  | .test _ _ => cases hlead
  | .group first' more' =>
      rw [toList_text_group, toList_text_group] at htext
      rw [operands, operands, List.append_assoc, List.append_assoc] at hvalues
      obtain ⟨⟨rfl, rfl⟩, hrest⟩ := read_members hfirst hmore hreadable'.1 hreadable'.2
        (List.cons.inj htext).2 hvalues
      exact ⟨rfl, hrest⟩
  | .subquery _ _ _ false => cases hlead
  | .subquery _ _ _ true => cases hlead

theorem toList_text_subquery (table : String) (first : NormalForm) (more : Chain)
    (negated : Bool) (rest : List Char) :
    (NormalForm.subquery table first more negated).text.toList ++ rest =
      (existsHead negated).toList ++ ((Identifier.quote table).toList ++ (" WHERE ".toList ++
        (first.text.toList ++ (more.text.toList ++ ')' :: rest)))) := by
  simp [text, existsHead]

theorem readsBack_subquery {table : String} {first : NormalForm} {more : Chain} {negated : Bool}
    (hreadable : (NormalForm.subquery table first more negated).IsReadable)
    (hfirst : first.ReadsBack) (hmore : more.ReadsBack) :
    (NormalForm.subquery table first more negated).ReadsBack := by
  intro formula' rest rest' values values' hreadable' htext hvalues
  have hlead := lead_eq hreadable hreadable' htext
  match formula' with
  | .test _ _ => cases negated <;> cases hlead
  | .group _ _ => cases negated <;> cases hlead
  | .subquery table' first' more' negated' =>
      rw [toList_text_subquery, toList_text_subquery] at htext
      rw [operands, operands, List.append_assoc, List.append_assoc] at hvalues
      have hnegated (b : Bool) : b ∈ [false, true] := by cases b <;> decide
      obtain ⟨rfl, htable⟩ :=
        prefixCode_existsHead.read (hnegated negated) (hnegated negated') htext
      obtain ⟨rfl, hwhere⟩ := Identifier.read_quote hreadable.1 hreadable'.1 htable
      obtain ⟨⟨rfl, rfl⟩, hrest⟩ := read_members hfirst hmore hreadable'.2.1 hreadable'.2.2
        (List.append_cancel_left hwhere) hvalues
      exact ⟨rfl, hrest⟩

end NormalForm

namespace Chain

theorem toList_text_cons (connective : Connective) (first : NormalForm) (more : Chain)
    (rest : List Char) :
    (cons connective first more).text.toList ++ rest =
      (spacedConnective connective).toList ++
        (first.text.toList ++ (more.text.toList ++ rest)) := by
  simp [text, spacedConnective]

theorem head?_text_cons (connective : Connective) (first : NormalForm) (more : Chain)
    (rest : List Char) :
    ((cons connective first more).text.toList ++ rest).head? = some ' ' := by
  simp [text]

theorem readsBack_nil : nil.ReadsBack := by
  intro chain' rest rest' values values' _ hstop _ htext hvalues
  cases chain' with
  | nil => exact ⟨rfl, htext, hvalues⟩
  | cons connective first more =>
      -- A chain that goes on begins with a space, and what follows this one does not.
      change rest = _ at htext
      rw [htext] at hstop
      exact absurd (head?_text_cons connective first more rest') hstop

/-- A chain goes on with a space where it has another member, so its end can be seen. -/
theorem readsBack_cons (connective : Connective) {first : NormalForm} {more : Chain}
    (hfirst : first.ReadsBack) (hmore : more.ReadsBack) :
    (cons connective first more).ReadsBack := by
  intro chain' rest rest' values values' hreadable' hstop hstop' htext hvalues
  cases chain' with
  | nil =>
      change _ = rest' at htext
      rw [← htext] at hstop'
      exact absurd (head?_text_cons connective first more rest) hstop'
  | cons connective' first' more' =>
      rw [toList_text_cons, toList_text_cons] at htext
      rw [operands, operands, List.append_assoc, List.append_assoc] at hvalues
      obtain ⟨rfl, htexts⟩ :=
        prefixCode_spacedConnective.read connective.mem_all connective'.mem_all htext
      obtain ⟨rfl, htexts, hoperands⟩ := hfirst hreadable'.1 htexts hvalues
      obtain ⟨rfl, hrest⟩ := hmore hreadable'.2 hstop hstop' htexts hoperands
      exact ⟨rfl, hrest⟩

end Chain

mutual

/-- By induction on the tree, the text and the operands of a formula tell the formula. -/
theorem NormalForm.readsBack : ∀ formula : NormalForm, formula.IsReadable → formula.ReadsBack
  | .test _ _, hreadable => NormalForm.readsBack_test hreadable
  | .group first more, hreadable =>
      NormalForm.readsBack_group hreadable (NormalForm.readsBack first hreadable.1)
        (Chain.readsBack more hreadable.2)
  | .subquery _ first more _, hreadable =>
      NormalForm.readsBack_subquery hreadable (NormalForm.readsBack first hreadable.2.1)
        (Chain.readsBack more hreadable.2.2)

theorem Chain.readsBack : ∀ chain : Chain, chain.IsReadable → chain.ReadsBack
  | .nil, _ => Chain.readsBack_nil
  | .cons connective first more, hreadable =>
      Chain.readsBack_cons connective (NormalForm.readsBack first hreadable.1)
        (Chain.readsBack more hreadable.2)

end

/-- There are finitely many forms of tests, as long as no symbol is made up. -/
theorem TestForm.mem_known {form : TestForm}
    (hsymbol : ∀ symbol, form = .compare symbol → symbol ∈ Predicate.comparisonSymbols) :
    form ∈ known := by
  cases form with
  | compare symbol => exact List.mem_append_left _ (List.mem_map_of_mem (hsymbol symbol rfl))
  | between negated => cases negated <;> decide
  | inList negated => cases negated <;> decide
  | like negated => cases negated <;> decide
  | isNull negated => cases negated <;> decide

theorem Predicate.form_normal_mem_known {predicate : Predicate}
    (hsymbols : ∀ symbol ∈ predicate.symbols, symbol ∈ comparisonSymbols) :
    predicate.normal.form ∈ TestForm.known := by
  apply TestForm.mem_known
  intro symbol hform
  cases predicate with
  | compare symbol value =>
      cases hform
      exact hsymbols symbol List.mem_cons_self
  | _ => cases hform

theorem Chain.isReadable_of_group? {chain : Chain} {formula : NormalForm}
    (hreadable : chain.IsReadable) (h : chain.group? = some formula) : formula.IsReadable := by
  match chain, h with
  | .cons _ _ .nil, h =>
      cases h
      exact hreadable.1
  | .cons _ _ (.cons _ _ _), h =>
      cases h
      exact hreadable

namespace Formula

mutual

/-- Only plain names and known symbols are left in a normal form, if there are no others in the
formula. -/
theorem isReadable_normal : ∀ (formula : Formula) (normal : NormalForm),
    (∀ name ∈ formula.names, Identifier.IsPlain name) →
    (∀ leaf ∈ formula.leaves, ∀ symbol ∈ leaf.2.symbols, symbol ∈ Predicate.comparisonSymbols) →
    formula.normal = some normal → normal.IsReadable
  | .test _ column predicate, normal, hnames, hsymbols, h => by
      cases h
      exact ⟨hnames column List.mem_cons_self,
        Predicate.form_normal_mem_known (hsymbols (column, predicate) List.mem_cons_self)⟩
  | .group _ members, normal, hnames, hsymbols, h =>
      Chain.isReadable_of_group? (isReadable_normalMembers members hnames hsymbols) h
  | .subquery connective table members negated, normal, hnames, hsymbols, h => by
      obtain ⟨htable, next, first, rest, hmembers, rfl⟩ := normal_subquery h
      have hleaves : memberLeaves members ≠ [] :=
        (normalMembers_eq_nil_iff members).not.mp (by simp [hmembers])
      rw [names_subquery htable hleaves] at hnames
      rw [leaves_subquery htable] at hsymbols
      obtain ⟨hname, hmemberNames⟩ := List.forall_mem_cons.mp hnames
      have hreadable := isReadable_normalMembers members hmemberNames hsymbols
      rw [hmembers] at hreadable
      exact ⟨hname, hreadable⟩

theorem isReadable_normalMembers : ∀ members : List Formula,
    (∀ name ∈ memberNames members, Identifier.IsPlain name) →
    (∀ leaf ∈ memberLeaves members, ∀ symbol ∈ leaf.2.symbols,
      symbol ∈ Predicate.comparisonSymbols) →
    (normalMembers members).IsReadable
  | [], _, _ => trivial
  | formula :: rest, hnames, hsymbols => by
      obtain ⟨hfirstNames, hrestNames⟩ := List.forall_mem_append.mp hnames
      obtain ⟨hfirstSymbols, hrestSymbols⟩ := List.forall_mem_append.mp hsymbols
      have hrest := isReadable_normalMembers rest hrestNames hrestSymbols
      rw [normalMembers]
      match hnormal : formula.normal with
      | none => exact hrest
      | some first =>
          exact ⟨isReadable_normal formula first hfirstNames hfirstSymbols hnormal, hrest⟩

end

end Formula

/-- A condition with plain names and usual symbols. Only what is in its text counts: an empty
formula may have any names, and the table of a subquery may also be empty. -/
structure Filter.IsReadable (filter : Filter) : Prop where
  names : ∀ name ∈ filter.names, Identifier.IsPlain name
  symbols : ∀ symbol ∈ filter.symbols, symbol ∈ Predicate.comparisonSymbols

theorem Filter.isReadable_normalMembers {filter : Filter} (h : filter.IsReadable) :
    (Formula.normalMembers filter.members).IsReadable := by
  apply Formula.isReadable_normalMembers filter.members h.names
  exact forall_mem_symbols.mp h.symbols

theorem Chain.head?_joined_parts (connective : Connective) {first : NormalForm} (more : Chain)
    (hreadable : first.IsReadable) :
    (joined (cons connective first more).parts).toList.head? = some first.lead := by
  rw [joined_parts_cons, String.toList_append, List.head?_append, first.head?_text hreadable]
  rfl

/-- Chains are told apart, but for their first connectives. -/
theorem Chain.condition?_eq {chain chain' : Chain} (hreadable : chain.IsReadable)
    (hreadable' : chain'.IsReadable) (htext : joined chain.parts = joined chain'.parts)
    (hvalues : chain.operands = chain'.operands) : chain.condition? = chain'.condition? := by
  cases chain with
  | nil =>
      cases chain' with
      | nil => rfl
      | cons connective' first' more' =>
          have hhead := head?_joined_parts connective' more' hreadable'.1
          rw [← htext] at hhead
          cases hhead
  | cons connective first more =>
      cases chain' with
      | nil =>
          have hhead := head?_joined_parts connective more hreadable.1
          rw [htext] at hhead
          cases hhead
      | cons connective' first' more' =>
          rw [joined_parts_cons, joined_parts_cons] at htext
          have hchars := congrArg String.toList htext
          rw [String.toList_append, String.toList_append] at hchars
          obtain ⟨rfl, hmore, hoperands⟩ :=
            first.readsBack hreadable.1 hreadable'.1 hchars hvalues
          have hnone : ([] : List Char).head? ≠ some ' ' := by decide
          obtain ⟨rfl, _⟩ := more.readsBack hreadable.2 hreadable'.2 hnone hnone
            (congrArg (· ++ []) hmore) (congrArg (· ++ []) hoperands)
          rfl

/-- Two conditions are written with the same text and the same parameters just when they have one
normal form. -/
theorem write_eq_iff_normal_eq {filter filter' : Filter} (hreadable : filter.IsReadable)
    (hreadable' : filter'.IsReadable) :
    filter.write.run [] = filter'.write.run [] ↔ filter.normal = filter'.normal := by
  rw [filter.run_write_normal, filter'.run_write_normal]
  constructor
  · intro hwrite
    obtain ⟨htext, hvalues⟩ := Prod.mk.inj hwrite
    exact Chain.condition?_eq (Filter.isReadable_normalMembers hreadable)
      (Filter.isReadable_normalMembers hreadable') htext hvalues
  · intro hnormal
    obtain ⟨htext, hvalues⟩ := Chain.joined_parts_congr hnormal
    rw [htext, hvalues]

/-- Two ways to build one condition: with groups of one member, an empty formula, other connectives
in front, and the wildcards of a pattern in its value. -/
theorem normal_eq_of_regrouped :
    let filter : Filter :=
      ⟨[.group .or [.test .or "a" (.eq .null), .test .or "b" (.like (.text "x") .contains true)],
        .subquery .and "t" [.test .and "c" (.between .null .null false)] false]⟩
    let filter' : Filter :=
      ⟨[.group .and [.group .or [.test .and "a" (.eq .null)],
          .group .or [.group .and [], .test .and "b" (.like (.text "x%") .suffixed true)]],
        .subquery .or "" [.test .and "d e" (.isNull true)] true,
        .group .and [.subquery .or "t" [.test .or "c" (.between .null .null false)] false]]⟩
    (filter.IsReadable ∧ filter'.IsReadable ∧ filter.write.run [] = filter'.write.run []) ∧
      filter.normal = filter'.normal := by
  intro filter filter'
  have hreadable : filter.IsReadable := ⟨by decide, by decide⟩
  have hreadable' : filter'.IsReadable := ⟨by decide, by decide⟩
  have htext : filter.spelled Value.mark = filter'.spelled Value.mark := by decide +kernel
  have hpattern : Value.text (Wildcard.contains.pattern (.text "x")) =
      .text (Wildcard.suffixed.pattern (.text "x%")) := congrArg Value.text (by decide)
  have hvalues : filter.operands = filter'.operands :=
    congrArg (fun pattern => [Value.null, pattern, .null, .null]) hpattern
  have hwrite : filter.write.run [] = filter'.write.run [] := by
    rw [filter.run_write, filter'.run_write, htext, hvalues]
  exact ⟨⟨hreadable, hreadable', hwrite⟩, (write_eq_iff_normal_eq hreadable hreadable').mp hwrite⟩

end BoundSql
