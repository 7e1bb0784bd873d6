import BoundSql.Proofs.Identifier

/-!
When two names have one written form. Quoting forgets the marks at the ends of a name and nothing
else. A written form can be quoted again without a change, and it shows whether the name was quoted.
-/

namespace BoundSql.Identifier

/-- The marks that quoting puts on are trimmed off again. -/
theorem trimEnds_quote {name : String} (h : IsQuoted name) :
    Text.trimEnds (· == mark) (quote name) = Text.trimEnds (· == mark) name := by
  have hmark : ∀ c ∈ (String.singleton mark).toList, (c == mark) = true := by simp
  rw [quote_of_isQuoted h, Text.trimEnds_around _ hmark hmark, Text.trimEnds_trimEnds]

/-- What is written of a quoted name is a quoted name: there is a mark in it, and no space or
parenthesis that is not in the name. -/
theorem isQuoted_quote {name : String} (h : IsQuoted name) : IsQuoted (quote name) := by
  have hmark : mark ∈ (quote name).toList := by simp [quote_of_isQuoted h]
  refine ⟨?_, ?_, ?_, ?_⟩
  · intro hempty
    rw [hempty] at hmark
    exact absurd hmark (by decide)
  · intro hstar
    rw [hstar] at hmark
    exact absurd hmark (by decide)
  · intro hspace
    rcases mem_quote hspace with hname | hmark
    · exact h.no_space hname
    · exact absurd hmark (by decide)
  · intro hparenthesis
    rcases mem_quote hparenthesis with hname | hmark
    · exact h.no_parenthesis hname
    · exact absurd hmark (by decide)

theorem isQuoted_quote_iff {name : String} : IsQuoted (quote name) ↔ IsQuoted name := by
  constructor
  · intro h
    by_contra hname
    rw [quote_of_not_isQuoted hname] at h
    exact hname h
  · exact isQuoted_quote

theorem quote_quote (name : String) : quote (quote name) = quote name := by
  by_cases hname : IsQuoted name
  · rw [quote_of_isQuoted (isQuoted_quote hname), trimEnds_quote hname, ← quote_of_isQuoted hname]
  · rw [quote_of_not_isQuoted hname, quote_of_not_isQuoted hname]

/-- Two quoted names are written alike just when one text is left of both without the marks at their
ends. -/
theorem quote_eq_quote_iff_trimsTo {a b : String} (ha : IsQuoted a) (hb : IsQuoted b) :
    quote a = quote b ↔
      ∃ core, Text.TrimsTo (· == mark) a core ∧ Text.TrimsTo (· == mark) b core := by
  constructor
  · intro h
    refine ⟨Text.trimEnds (· == mark) a, Text.trimsTo_trimEnds _ a, ?_⟩
    rw [← Text.trimEnds_eq_iff, ← trimEnds_quote ha, ← trimEnds_quote hb, h]
  · rintro ⟨core, hcore, hcore'⟩
    rw [quote_of_isQuoted ha, quote_of_isQuoted hb, hcore.trimEnds_eq, hcore'.trimEnds_eq]

/-- A name of nothing but marks is written as two of them. -/
theorem quote_of_only_marks {name : String} (hne : name ≠ "")
    (hmarks : ∀ c ∈ name.toList, c = mark) :
    quote name = String.singleton mark ++ String.singleton mark := by
  have hquoted : IsQuoted name := by
    refine ⟨hne, ?_, ?_, ?_⟩
    · rintro rfl
      exact absurd (hmarks '*' (by decide)) (by decide)
    · intro hspace
      exact absurd (hmarks ' ' hspace) (by decide)
    · intro hparenthesis
      exact absurd (hmarks '(' hparenthesis) (by decide)
  have hcore : Text.TrimsTo (· == mark) name "" := by
    refine ⟨⟨name, "", by simp, ?_, nofun⟩, nofun, nofun⟩
    intro c hc
    exact beq_of_eq (hmarks c hc)
  rw [quote_of_isQuoted hquoted, hcore.trimEnds_eq, String.append_empty]

/-- Two names are written alike just when they are one name, or both are quoted and differ in the
marks at their ends alone. Quoting a second time changes nothing. What is written of a quoted name
is neither empty nor an expression, though it be a name of nothing but marks. -/
theorem quote_forgets_only_end_marks :
    (∀ name, quote (quote name) = quote name) ∧
      (∀ a b, quote a = quote b ↔
        a = b ∨ IsQuoted a ∧ IsQuoted b ∧
          ∃ core, Text.TrimsTo (· == mark) a core ∧ Text.TrimsTo (· == mark) b core) ∧
      (∀ a b, IsQuoted a → ¬ IsQuoted b → quote b = b ∧ quote a ≠ b) ∧
      ∀ count, quote (String.ofList (List.replicate (count + 1) mark)) = "``" := by
  refine ⟨quote_quote, ?_, ?_, ?_⟩
  · intro a b
    constructor
    · intro h
      -- The written form tells whether there are marks around it, so both names are of one kind.
      have hkind : IsQuoted a ↔ IsQuoted b := by
        rw [← isQuoted_quote_iff, h, isQuoted_quote_iff]
      by_cases ha : IsQuoted a
      · have hb : IsQuoted b := hkind.mp ha
        exact Or.inr ⟨ha, hb, (quote_eq_quote_iff_trimsTo ha hb).mp h⟩
      · have hb : ¬ IsQuoted b := mt hkind.mpr ha
        rw [quote_of_not_isQuoted ha, quote_of_not_isQuoted hb] at h
        exact Or.inl h
    · rintro (rfl | ⟨ha, hb, hcore⟩)
      · rfl
      · exact (quote_eq_quote_iff_trimsTo ha hb).mpr hcore
  · intro a b ha hb
    refine ⟨quote_of_not_isQuoted hb, ?_⟩
    rintro rfl
    exact hb (isQuoted_quote ha)
  · intro count
    rw [quote_of_only_marks (by simp) (by simp)]
    decide

/-- Names with marks left over from a quoting, an expression with a quoted name in it, and a name
that is nothing but marks. -/
theorem quote_of_leftover_marks :
    (IsQuoted "``a`b" ∧ IsQuoted "a`b`" ∧ IsQuoted "```") ∧
      ¬ IsQuoted "COUNT(`a`)" ∧ ¬ IsQuoted "" ∧
      (∃ core, Text.TrimsTo (· == mark) "``a`b" core ∧ Text.TrimsTo (· == mark) "a`b`" core) ∧
      quote "``a`b" = quote "a`b`" ∧ quote (quote "``a`b") = quote "``a`b" ∧
      quote "``a`b" ≠ "COUNT(`a`)" ∧ quote "```" = "``" ∧ quote "```" ≠ "" := by
  obtain ⟨hidem, hkernel, hapart, hmarks⟩ := quote_forgets_only_end_marks
  have ha : IsQuoted "``a`b" := by decide
  have hb : IsQuoted "a`b`" := by decide
  have honly : IsQuoted "```" := by decide
  have hexpression : ¬ IsQuoted "COUNT(`a`)" := by decide
  have hempty : ¬ IsQuoted "" := by decide
  have hcore : ∃ core, Text.TrimsTo (· == mark) "``a`b" core ∧
      Text.TrimsTo (· == mark) "a`b`" core :=
    ⟨"a`b", Text.trimEnds_eq_iff.mp (by decide), Text.trimEnds_eq_iff.mp (by decide)⟩
  exact ⟨⟨ha, hb, honly⟩, hexpression, hempty, hcore, (hkernel _ _).mpr (Or.inr ⟨ha, hb, hcore⟩),
    hidem _, (hapart _ _ ha hexpression).2, hmarks 2, (hapart _ _ honly hempty).2⟩

end BoundSql.Identifier
