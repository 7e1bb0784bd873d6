import Mathlib.Data.List.Forall2

/-!
Lists that are compared item by item, also when they stand in a row with others.
-/

namespace BoundSql

variable {α : Type} {R : α → α → Prop}

/-- Values in front of others are related when all of them are and there are as many. -/
theorem forall₂_of_append {front front' back back' : List α}
    (hlength : front.length = front'.length)
    (h : List.Forall₂ R (front ++ back) (front' ++ back')) :
    List.Forall₂ R front front' ∧ List.Forall₂ R back back' := by
  induction front generalizing front' with
  | nil =>
      obtain rfl := List.eq_nil_of_length_eq_zero hlength.symm
      exact ⟨.nil, h⟩
  | cons x rest ih =>
      cases front' with
      | nil => cases hlength
      | cons x' rest' =>
          rw [List.cons_append, List.cons_append, List.forall₂_cons] at h
          obtain ⟨hrest, hback⟩ := ih (Nat.succ.inj hlength) h.2
          exact ⟨.cons h.1 hrest, hback⟩

/-- Lists that stand in a row can be told apart once their lengths are known. -/
theorem forall₂_of_flatten {lists others : List (List α)}
    (hlengths : lists.map List.length = others.map List.length)
    (h : List.Forall₂ R lists.flatten others.flatten) :
    List.Forall₂ (List.Forall₂ R) lists others := by
  induction lists generalizing others with
  | nil =>
      obtain rfl := List.map_eq_nil_iff.mp hlengths.symm
      exact .nil
  | cons list rest ih =>
      cases others with
      | nil => cases hlengths
      | cons other rest' =>
          obtain ⟨hlength, hlengths⟩ := List.cons.inj hlengths
          rw [List.flatten_cons, List.flatten_cons] at h
          obtain ⟨hlist, hrest⟩ := forall₂_of_append hlength h
          exact .cons hlist (ih hlengths hrest)

/-- Lists count as equal when their items do, one by one. -/
theorem beq_iff_forall₂ [BEq α] {items others : List α} :
    (items == others) = true ↔ List.Forall₂ (fun x y => (x == y) = true) items others := by
  induction items generalizing others with
  | nil => cases others <;> simp
  | cons x rest ih =>
      cases others with
      | nil => simp
      | cons y rest' => simp [ih]

end BoundSql
