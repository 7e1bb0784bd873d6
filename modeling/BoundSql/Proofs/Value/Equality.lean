import BoundSql.Value
import Mathlib

/-!
Equality of values against identity. Floating-point numbers are compared as numbers, so that the two
zeros are equal, though their texts differ by a sign. That is all that equality overlooks: values
that are equal are the same once the zeros in them have the same signs.
-/

namespace BoundSql

/-- The sign of a zero, which it has as a floating-point number but not as a number. -/
def Decimal.Binary.zeroSigns : Binary → List Bool
  | .finite negative 0 _ => [negative]
  | _ => []

namespace Json

mutual

/-- The signs of all floating-point zeros in a JSON value, in order. -/
def zeroSigns : Json → List Bool
  | .float x => (Decimal.Binary.ofFloat x).zeroSigns
  | .array items => itemZeroSigns items
  | .object fields => fieldZeroSigns fields
  | _ => []

def itemZeroSigns : List Json → List Bool
  | [] => []
  | item :: rest => item.zeroSigns ++ itemZeroSigns rest

def fieldZeroSigns : List (String × Json) → List Bool
  | [] => []
  | (_, value) :: rest => value.zeroSigns ++ fieldZeroSigns rest

end

end Json

/-- The signs of all floating-point zeros in a value. -/
def Value.zeroSigns : Value → List Bool
  | .float x => (Decimal.Binary.ofFloat x).zeroSigns
  | .json document => document.zeroSigns
  | _ => []

/-- Two pieces of data have as many zeros, and they are the same if their zeros have the same
signs. -/
structure SameUpToSigns {α : Type} (signs : α → List Bool) (a b : α) : Prop where
  length_eq : (signs a).length = (signs b).length
  eq_of_signs : signs a = signs b → a = b

namespace SameUpToSigns

variable {α β γ : Type} {signs : α → List Bool}

theorem of_eq {a b : α} (h : a = b) : SameUpToSigns signs a b := by
  subst h
  exact ⟨rfl, fun _ => rfl⟩

theorem of_beq [BEq β] [LawfulBEq β] (make : β → α) {b b' : β} (h : (b == b') = true) :
    SameUpToSigns signs (make b) (make b') :=
  .of_eq (congrArg make (eq_of_beq h))

/-- Data that is made of two parts and has the signs of both. -/
theorem pair {front : β → List Bool} {back : γ → List Bool} {b b' : β} {c c' : γ}
    (hfront : SameUpToSigns front b b') (hback : SameUpToSigns back c c') (make : β → γ → α)
    (hsigns : ∀ b c, signs (make b c) = front b ++ back c) :
    SameUpToSigns signs (make b c) (make b' c') := by
  constructor
  · rw [hsigns, hsigns, List.length_append, List.length_append, hfront.length_eq,
      hback.length_eq]
  · intro h
    rw [hsigns, hsigns] at h
    obtain ⟨hfronts, hbacks⟩ := List.append_inj h hfront.length_eq
    rw [hfront.eq_of_signs hfronts, hback.eq_of_signs hbacks]

/-- Data that is made of one part and has its signs. -/
theorem wrapped {inner : β → List Bool} {b b' : β} (h : SameUpToSigns inner b b') (make : β → α)
    (hsigns : ∀ b, signs (make b) = inner b) : SameUpToSigns signs (make b) (make b') := by
  constructor
  · rw [hsigns, hsigns, h.length_eq]
  · intro hsame
    rw [hsigns, hsigns] at hsame
    rw [h.eq_of_signs hsame]

end SameUpToSigns

theorem sameUpToSigns_float {x y : Float} (h : (x == y) = true) :
    SameUpToSigns (fun x => (Decimal.Binary.ofFloat x).zeroSigns) x y := by
  rcases Float.beq_iff_ne_nan_and_eq.mp h with ⟨_, _, rfl | ⟨rfl, rfl⟩ | ⟨rfl, rfl⟩⟩
  · exact .of_eq rfl
  -- The two zeros are equal without being the same.
  · exact ⟨by decide, fun hsigns => absurd hsigns (by decide)⟩
  · exact ⟨by decide, fun hsigns => absurd hsigns (by decide)⟩

namespace Json

mutual

/-- By induction on the value: equal JSON differs in the signs of its zeros at most. -/
theorem sameUpToSigns_of_equal : ∀ {a b : Json}, equal a b = true → SameUpToSigns zeroSigns a b
  | .null, b, h => by
      cases b with
      | null => exact .of_eq rfl
      | _ => cases h
  | .bool _, b, h => by
      cases b with
      | bool _ => exact .of_beq Json.bool h
      | _ => cases h
  | .integer _, b, h => by
      cases b with
      | integer _ => exact .of_beq Json.integer h
      | _ => cases h
  | .float _, b, h => by
      cases b with
      | float _ => exact (sameUpToSigns_float h).wrapped Json.float fun _ => rfl
      | _ => cases h
  | .string _, b, h => by
      cases b with
      | string _ => exact .of_beq Json.string h
      | _ => cases h
  | .array _, b, h => by
      cases b with
      | array _ => exact (sameUpToSigns_items h).wrapped Json.array fun _ => rfl
      | _ => cases h
  | .object _, b, h => by
      cases b with
      | object _ => exact (sameUpToSigns_fields h).wrapped Json.object fun _ => rfl
      | _ => cases h

theorem sameUpToSigns_items : ∀ {items others : List Json}, equalItems items others = true →
    SameUpToSigns itemZeroSigns items others
  | [], others, h => by
      cases others with
      | nil => exact .of_eq rfl
      | cons _ _ => cases h
  | item :: rest, others, h => by
      cases others with
      | nil => cases h
      | cons other rest' =>
          obtain ⟨hitem, hrest⟩ := Bool.and_eq_true_iff.mp h
          exact (sameUpToSigns_of_equal hitem).pair (sameUpToSigns_items hrest) List.cons
            fun _ _ => rfl

theorem sameUpToSigns_fields : ∀ {fields others : List (String × Json)},
    equalFields fields others = true → SameUpToSigns fieldZeroSigns fields others
  | [], others, h => by
      cases others with
      | nil => exact .of_eq rfl
      | cons _ _ => cases h
  | (key, value) :: rest, others, h => by
      cases others with
      | nil => cases h
      | cons other rest' =>
          obtain ⟨hfield, hrest⟩ := Bool.and_eq_true_iff.mp h
          obtain ⟨hkey, hvalue⟩ := Bool.and_eq_true_iff.mp hfield
          obtain ⟨other, value'⟩ := other
          obtain rfl := eq_of_beq hkey
          exact (sameUpToSigns_of_equal hvalue).pair (sameUpToSigns_fields hrest)
            (fun value rest => (key, value) :: rest) fun _ _ => rfl

end

end Json

/-- Equal values are the same up to the signs of their zeros. -/
theorem Value.sameUpToSigns_of_beq {v w : Value} (h : (v == w) = true) :
    SameUpToSigns zeroSigns v w := by
  cases v with
  | null =>
      cases w with
      | null => exact .of_eq rfl
      | _ => cases h
  | bool _ =>
      cases w with
      | bool _ => exact .of_beq Value.bool h
      | _ => cases h
  | int _ =>
      cases w with
      | int _ => exact .of_beq Value.int h
      | _ => cases h
  | uint _ =>
      cases w with
      | uint _ => exact .of_beq Value.uint h
      | _ => cases h
  | float _ =>
      cases w with
      | float _ => exact (sameUpToSigns_float h).wrapped Value.float fun _ => rfl
      | _ => cases h
  | text _ =>
      cases w with
      | text _ => exact .of_beq Value.text h
      | _ => cases h
  | bytes _ =>
      cases w with
      | bytes _ => exact .of_beq Value.bytes h
      | _ => cases h
  | uuid _ =>
      cases w with
      | uuid _ => exact .of_beq Value.uuid h
      | _ => cases h
  | date _ =>
      cases w with
      | date _ => exact .of_beq Value.date h
      | _ => cases h
  | dateTime _ =>
      cases w with
      | dateTime _ => exact .of_beq Value.dateTime h
      | _ => cases h
  | timestamp _ =>
      cases w with
      | timestamp _ => exact .of_beq Value.timestamp h
      | _ => cases h
  | json _ =>
      cases w with
      | json _ => exact (Json.sameUpToSigns_of_equal h).wrapped Value.json fun _ => rfl
      | _ => cases h

end BoundSql
