import BoundSql.Proofs.Formula.Spelling
import Mathlib.Data.List.Infix

/-!
Which texts a pattern selects. In a pattern, the percent sign stands for any text, the underscore
for any one character, and every other character for itself; there is no escape character. The
pattern for a value finds every text that contains, begins with or ends with the display text of the
value, even where that has wildcards in it. Where it has none, no other text is found.
-/

namespace BoundSql

namespace Pattern

variable {c : Char} {pattern text word : List Char}

/-- Whether a pattern stands for a text. -/
inductive Matches : List Char → List Char → Prop where
  | nil : Matches [] []
  | anyText (skipped : List Char) {pattern text : List Char} (h : Matches pattern text) :
      Matches ('%' :: pattern) (skipped ++ text)
  | anyChar (c : Char) {pattern text : List Char} (h : Matches pattern text) :
      Matches ('_' :: pattern) (c :: text)
  | itself {c : Char} {pattern text : List Char} (htext : c ≠ '%') (hchar : c ≠ '_')
      (h : Matches pattern text) : Matches (c :: pattern) (c :: text)

/-- Matching by trial: a percent sign tries every place where the text may go on. -/
def accepts : List Char → List Char → Bool
  | [], text => text.isEmpty
  | c :: pattern, text =>
      if c = '%' then text.tails.any (accepts pattern)
      else
        match text with
        | [] => false
        | d :: rest => (c = '_' || c = d) && accepts pattern rest

theorem matches_percent_iff :
    Matches ('%' :: pattern) text ↔ ∃ rest, rest <:+ text ∧ Matches pattern rest := by
  constructor
  · intro h
    cases h with
    | anyText skipped h => exact ⟨_, List.suffix_append skipped _, h⟩
    | itself htext hchar h => exact absurd rfl htext
  · rintro ⟨rest, ⟨skipped, rfl⟩, h⟩
    exact .anyText skipped h

theorem matches_cons_iff (hc : c ≠ '%') :
    Matches (c :: pattern) text ↔
      ∃ d rest, text = d :: rest ∧ (c = '_' ∨ c = d) ∧ Matches pattern rest := by
  constructor
  · intro h
    cases h with
    | anyText skipped h => exact absurd rfl hc
    | anyChar d h => exact ⟨d, _, rfl, Or.inl rfl, h⟩
    | itself htext hchar h => exact ⟨c, _, rfl, Or.inr rfl, h⟩
  · rintro ⟨d, rest, rfl, hd, h⟩
    by_cases hchar : c = '_'
    · subst hchar
      exact .anyChar d h
    · obtain rfl := hd.resolve_left hchar
      exact .itself hc hchar h

theorem accepts_percent (pattern text : List Char) :
    accepts ('%' :: pattern) text = text.tails.any (accepts pattern) := rfl

theorem accepts_cons (hc : c ≠ '%') (pattern : List Char) (d : Char) (rest : List Char) :
    accepts (c :: pattern) (d :: rest) = ((c = '_' || c = d) && accepts pattern rest) :=
  if_neg hc

theorem accepts_cons_nil (hc : c ≠ '%') (pattern : List Char) :
    accepts (c :: pattern) [] = false :=
  if_neg hc

/-- Trial finds out whether a pattern stands for a text. -/
theorem accepts_iff_matches : accepts pattern text = true ↔ Matches pattern text := by
  induction pattern generalizing text with
  | nil =>
      rw [accepts, List.isEmpty_iff]
      constructor
      · rintro rfl
        exact .nil
      · rintro ⟨⟩
        rfl
  | cons c pattern ih =>
      by_cases hc : c = '%'
      · subst hc
        rw [accepts_percent, matches_percent_iff, List.any_eq_true]
        simp only [List.mem_tails, ih]
      · rw [matches_cons_iff hc]
        cases text with
        | nil => simp [accepts_cons_nil hc]
        | cons d rest => simp [accepts_cons hc, ih]

instance : Decidable (Matches pattern text) :=
  decidable_of_iff _ accepts_iff_matches

/-- Patterns one after the other stand for texts one after the other. -/
theorem Matches.append {back rest : List Char} (h : Matches pattern text)
    (hback : Matches back rest) : Matches (pattern ++ back) (text ++ rest) := by
  induction h with
  | nil => exact hback
  | anyText skipped _ ih =>
      rw [List.append_assoc]
      exact .anyText skipped ih
  | anyChar c _ ih => exact .anyChar c ih
  | itself htext hchar _ ih => exact .itself htext hchar ih

/-- Every text stands for itself, since a wildcard also stands for the character that it is. -/
theorem matches_self (word : List Char) : Matches word word := by
  induction word with
  | nil => exact .nil
  | cons c rest ih =>
      by_cases htext : c = '%'
      · subst htext
        exact .anyText ['%'] ih
      · exact (matches_cons_iff htext).mpr ⟨c, rest, rfl, Or.inr rfl, ih⟩

theorem matches_percent (text : List Char) : Matches ['%'] text :=
  matches_percent_iff.mpr ⟨[], List.nil_suffix, .nil⟩

/-- A text without wildcards. -/
structure Plain (word : List Char) : Prop where
  no_percent : '%' ∉ word
  no_underscore : '_' ∉ word

/-- Without wildcards, a text at the front of a pattern stands for itself only. -/
theorem Plain.matches_append_iff (h : Plain word) :
    Matches (word ++ pattern) text ↔ ∃ rest, text = word ++ rest ∧ Matches pattern rest := by
  constructor
  · intro hmatches
    induction word generalizing text with
    | nil => exact ⟨text, rfl, hmatches⟩
    | cons c word ih =>
        obtain ⟨htext, hpercent⟩ := List.ne_and_not_mem_of_not_mem_cons h.no_percent
        obtain ⟨hchar, hunderscore⟩ := List.ne_and_not_mem_of_not_mem_cons h.no_underscore
        obtain ⟨d, rest, rfl, hd, hrest⟩ := (matches_cons_iff htext.symm).mp hmatches
        obtain rfl := hd.resolve_left hchar.symm
        obtain ⟨back, rfl, hback⟩ := ih ⟨hpercent, hunderscore⟩ hrest
        exact ⟨back, rfl, hback⟩
  · rintro ⟨rest, rfl, hrest⟩
    exact (matches_self word).append hrest

theorem Plain.matches_iff_eq (h : Plain word) : Matches word text ↔ text = word := by
  have happend : Matches (word ++ []) text ↔ ∃ rest, text = word ++ rest ∧ Matches [] rest :=
    h.matches_append_iff
  rw [List.append_nil] at happend
  rw [happend]
  constructor
  · rintro ⟨rest, rfl, ⟨⟩⟩
    exact List.append_nil word
  · rintro rfl
    exact ⟨[], (List.append_nil text).symm, .nil⟩

end Pattern

open Pattern

namespace Wildcard

/-- Whether a text has a word at the place that a wildcard asks for. -/
def Selects (wildcard : Wildcard) (word text : String) : Prop :=
  match wildcard with
  | .contains => word.toList <:+: text.toList
  | .prefixed => word.toList <+: text.toList
  | .suffixed => word.toList <:+ text.toList

theorem toList_pattern (wildcard : Wildcard) (value : Value) :
    (wildcard.pattern value).toList =
      match wildcard with
      | .contains => '%' :: (value.display.toList ++ ['%'])
      | .prefixed => value.display.toList ++ ['%']
      | .suffixed => '%' :: value.display.toList := by
  cases wildcard <;> simp [pattern]

/-- No text is missed, whatever the display text is. -/
theorem matches_pattern_of_selects {wildcard : Wildcard} {value : Value} {text : String}
    (h : wildcard.Selects value.display text) :
    Matches (wildcard.pattern value).toList text.toList := by
  have hword := matches_self value.display.toList
  rw [toList_pattern]
  cases wildcard with
  | contains =>
      obtain ⟨front, back, htext⟩ := h
      rw [← htext, List.append_assoc]
      exact .anyText front (hword.append (matches_percent back))
  | prefixed =>
      obtain ⟨back, htext⟩ := h
      rw [← htext]
      exact hword.append (matches_percent back)
  | suffixed =>
      obtain ⟨front, htext⟩ := h
      rw [← htext]
      exact .anyText front hword

/-- Without wildcards in the display text, no other text is found. -/
theorem selects_of_matches_pattern {wildcard : Wildcard} {value : Value} {text : String}
    (hplain : Plain value.display.toList)
    (h : Matches (wildcard.pattern value).toList text.toList) :
    wildcard.Selects value.display text := by
  rw [toList_pattern] at h
  cases wildcard with
  | contains =>
      obtain ⟨rest, ⟨front, htext⟩, hrest⟩ := matches_percent_iff.mp h
      obtain ⟨back, rfl, _⟩ := hplain.matches_append_iff.mp hrest
      exact ⟨front, back, by rw [List.append_assoc, htext]⟩
  | prefixed =>
      obtain ⟨back, htext, _⟩ := hplain.matches_append_iff.mp h
      exact ⟨back, htext.symm⟩
  | suffixed =>
      obtain ⟨rest, hsuffix, hrest⟩ := matches_percent_iff.mp h
      obtain rfl := hplain.matches_iff_eq.mp hrest
      exact hsuffix

end Wildcard

/-- The pattern for a value finds all texts that have the display text of the value at the place
that the wildcard asks for, and where no wildcard is in the display text, only these. The text of
the pattern is the one value that the test binds, negated or not. -/
theorem pattern_selects_display_text (wildcard : Wildcard) (value : Value) :
    (∀ text : String, wildcard.Selects value.display text →
      Matches (wildcard.pattern value).toList text.toList) ∧
    (Plain value.display.toList → ∀ text : String,
      Matches (wildcard.pattern value).toList text.toList → wildcard.Selects value.display text) ∧
    ∀ (connective : Connective) (column : String) (negated : Bool) (bound : List Value),
      (Formula.write (.test connective column (.like value wildcard negated))).run bound =
        (connective.text ++ " " ++ (Identifier.quote column ++ " " ++ negation negated ++ "LIKE ?"),
          bound ++ [.text (wildcard.pattern value)]) := by
  refine ⟨?_, ?_, ?_⟩
  · intro text h
    exact Wildcard.matches_pattern_of_selects h
  · intro hplain text h
    exact Wildcard.selects_of_matches_pattern hplain h
  · intro connective column negated bound
    have hmark (front : String) : front ++ "LIKE ?" = front ++ "LIKE " ++ "?" := by
      rw [String.append_assoc]
      rfl
    rw [Formula.write, run_bind, Predicate.run_write, hmark]
    rfl

/-- A display text with a wildcard, which finds the texts that contain it, and one without, which
finds those that begin with it and no others. -/
theorem texts_selected_by_patterns :
    (Wildcard.contains.Selects (Value.text "5_%").display "at 5_%!" ∧
      Matches (Wildcard.contains.pattern (.text "5_%")).toList "at 5_%!".toList) ∧
    (Plain (Value.int 42).display.toList ∧
      Matches (Wildcard.prefixed.pattern (.int 42)).toList "421".toList ∧
      Wildcard.prefixed.Selects (Value.int 42).display "421") := by
  have hselects : Wildcard.contains.Selects (Value.text "5_%").display "at 5_%!" :=
    ⟨"at ".toList, "!".toList, by decide⟩
  have hplain : Plain (Value.int 42).display.toList := ⟨by decide, by decide⟩
  have hmatches : Matches (Wildcard.prefixed.pattern (.int 42)).toList "421".toList := by decide
  obtain ⟨hfinds, _⟩ := pattern_selects_display_text .contains (.text "5_%")
  obtain ⟨_, honly, _⟩ := pattern_selects_display_text .prefixed (.int 42)
  exact ⟨⟨hselects, hfinds _ hselects⟩, hplain, hmatches, honly hplain _ hmatches⟩

/-- A wildcard in the display text finds more. -/
example : Matches (Wildcard.prefixed.pattern (.text "5_")).toList "57".toList ∧
    ¬ "5_".toList <+: "57".toList := by
  decide

end BoundSql
