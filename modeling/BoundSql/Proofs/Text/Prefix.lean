import Mathlib.Data.List.Infix

/-!
Reading a text from its front: when the first piece of a text is known to be one of several codes,
or to end before a certain character, the text determines that piece and what follows it. A joined
text has no characters but those of its pieces and of the separator.
-/

namespace BoundSql.Text

/-- No code of one of the items is the beginning of the code of another. -/
def PrefixCode {α : Type} (code : α → String) (items : List α) : Prop :=
  ∀ a ∈ items, ∀ b ∈ items, (code a).toList <+: (code b).toList → a = b

instance {α : Type} [DecidableEq α] (code : α → String) (items : List α) :
    Decidable (PrefixCode code items) :=
  inferInstanceAs (Decidable (∀ a ∈ items, ∀ b ∈ items,
    (code a).toList <+: (code b).toList → a = b))

/-- A text begins with at most one of such codes. -/
theorem PrefixCode.read {α : Type} {code : α → String} {items : List α}
    (hcode : PrefixCode code items) {a b : α} (ha : a ∈ items) (hb : b ∈ items)
    {rest rest' : List Char} (h : (code a).toList ++ rest = (code b).toList ++ rest') :
    a = b ∧ rest = rest' := by
  have hfront : (code a).toList <+: (code b).toList ++ rest' := ⟨rest, h⟩
  have hback : (code b).toList <+: (code b).toList ++ rest' := List.prefix_append _ _
  have hab : a = b := by
    rcases List.prefix_or_prefix_of_prefix hfront hback with hshort | hlong
    · exact hcode a ha b hb hshort
    · exact (hcode b hb a ha hlong).symm
  subst hab
  exact ⟨rfl, List.append_cancel_left h⟩

/-- A piece that ends before the first occurrence of a character. -/
theorem read_until {stop : Char} {front front' rest rest' : List Char} (hfront : stop ∉ front)
    (hfront' : stop ∉ front') (h : front ++ stop :: rest = front' ++ stop :: rest') :
    front = front' ∧ rest = rest' := by
  induction front generalizing front' with
  | nil =>
      cases front' with
      | nil =>
          cases h
          exact ⟨rfl, rfl⟩
      | cons c more =>
          cases h
          exact absurd List.mem_cons_self hfront'
  | cons c more ih =>
      obtain ⟨hc, hmore⟩ := List.ne_and_not_mem_of_not_mem_cons hfront
      cases front' with
      | nil =>
          cases h
          exact absurd rfl hc
      | cons c' more' =>
          obtain ⟨hc', hmore'⟩ := List.ne_and_not_mem_of_not_mem_cons hfront'
          obtain ⟨hhead, htail⟩ := List.cons.inj h
          obtain ⟨hrest, htext⟩ := ih hmore hmore' htail
          rw [hhead, hrest]
          exact ⟨rfl, htext⟩

/-- A character of a joined text comes from a separator or from one of the texts. -/
theorem mem_of_mem_intercalate {separator : String} {texts : List String} {c : Char}
    (h : c ∈ (separator.intercalate texts).toList) :
    c ∈ separator.toList ∨ ∃ text ∈ texts, c ∈ text.toList := by
  induction texts with
  | nil => cases h
  | cons text rest ih =>
      cases rest with
      | nil => exact Or.inr ⟨text, List.mem_singleton_self text, by simpa using h⟩
      | cons next rest =>
          rw [String.intercalate_cons_cons, String.toList_append, String.toList_append,
            List.mem_append, List.mem_append] at h
          rcases h with (htext | hseparator) | hrest
          · exact Or.inr ⟨text, List.mem_cons_self, htext⟩
          · exact Or.inl hseparator
          · rcases ih hrest with hseparator | ⟨other, hother, hchar⟩
            · exact Or.inl hseparator
            · exact Or.inr ⟨other, List.mem_cons_of_mem text hother, hchar⟩

theorem notMem_intercalate {separator : String} {texts : List String} {c : Char}
    (hseparator : c ∉ separator.toList) (h : ∀ text ∈ texts, c ∉ text.toList) :
    c ∉ (separator.intercalate texts).toList := by
  intro hmem
  rcases mem_of_mem_intercalate hmem with hchar | ⟨text, htext, hchar⟩
  · exact hseparator hchar
  · exact h text htext hchar

theorem notMem_repr {c : Char} (hc : c.isDigit = false) (count : Nat) :
    c ∉ count.repr.toList := by
  rw [Nat.toList_repr]
  intro hmem
  have hdigit : c.isDigit = true := Nat.isDigit_of_mem_toDigits (by decide) (by decide) hmem
  rw [hc] at hdigit
  cases hdigit

end BoundSql.Text
