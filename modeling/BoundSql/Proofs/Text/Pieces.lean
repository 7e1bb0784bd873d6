import Mathlib.Data.List.Basic

/-!
Texts that are put together piece by piece, along with what belongs to each piece and what becomes
of it. A relation on the three that is kept by appending is also kept by fixed texts in front and
behind and by joining a list.
-/

namespace BoundSql.Text

/-- A relation between texts, the items in them and what becomes of them, that is kept when texts
are put one after the other. -/
structure Composes {β : Type} (R : String → List β → String → Prop) : Prop where
  empty : R "" [] ""
  append : ∀ {front back front' back' : String} {items items' : List β}, R front items front' →
    R back items' back' → R (front ++ back) (items ++ items') (front' ++ back')

namespace Composes

variable {α β : Type} {R : String → List β → String → Prop}

/-- A fixed text in front. -/
theorem after (h : Composes R) {front text result : String} {items : List β}
    (hfront : R front [] front) (htext : R text items result) :
    R (front ++ text) items (front ++ result) :=
  h.append hfront htext

/-- A fixed text behind. -/
theorem before (h : Composes R) {back text result : String} {items : List β}
    (hback : R back [] back) (htext : R text items result) :
    R (text ++ back) items (result ++ back) := by
  have happend := h.append htext hback
  rw [List.append_nil] at happend
  exact happend

theorem intercalate (h : Composes R) {separator : String}
    (hseparator : R separator [] separator) (text : α → String) (items : α → List β)
    (result : α → String) (xs : List α) (hpieces : ∀ x ∈ xs, R (text x) (items x) (result x)) :
    R (separator.intercalate (xs.map text)) (xs.flatMap items)
      (separator.intercalate (xs.map result)) := by
  induction xs with
  | nil => exact h.empty
  | cons x rest ih =>
      obtain ⟨hx, hothers⟩ := List.forall_mem_cons.mp hpieces
      have hrest := ih hothers
      cases rest with
      | nil => simpa using hx
      | cons y rest =>
          simp only [List.map_cons, String.intercalate_cons_cons] at hrest ⊢
          rw [List.flatMap_cons]
          exact h.append (h.before hseparator hx) hrest

end Composes

end BoundSql.Text
