import BoundSql.Text.Cut
import Mathlib.Data.List.Infix

/-!
Cutting a text to a number of bytes. The cut text is the longest beginning that is made of whole
characters and fits. It can also be found on the bytes alone: from the last place that there is room
for, one goes back byte by byte to a place where a character begins. Such a place is always found,
at most three bytes back, because no character has more than four bytes, and the bytes in front of
it are a text.
-/

namespace BoundSql.Text

/-- The longest beginning of a text that is made of whole characters and has room in so many
bytes. -/
structure IsLongestFront (room : Nat) (text front : String) : Prop where
  is_front : ∃ back, text = front ++ back
  fits : front.utf8ByteSize ≤ room
  longest : ∀ other back, text = other ++ back → other.utf8ByteSize ≤ room →
    other.utf8ByteSize ≤ front.utf8ByteSize

/-- The number of bytes of some characters. -/
def byteCount : List Char → Nat
  | [] => 0
  | c :: rest => c.utf8Size + byteCount rest

theorem byteCount_append (front back : List Char) :
    byteCount (front ++ back) = byteCount front + byteCount back := by
  induction front with
  | nil => exact (Nat.zero_add _).symm
  | cons c rest ih => rw [List.cons_append, byteCount, byteCount, ih, Nat.add_assoc]

theorem utf8ByteSize_ofList (cs : List Char) : (String.ofList cs).utf8ByteSize = byteCount cs := by
  induction cs with
  | nil => rfl
  | cons c rest ih =>
      rw [String.ofList_cons, String.utf8ByteSize_append, String.utf8ByteSize_singleton, ih]
      rfl

theorem utf8ByteSize_eq_byteCount (text : String) : text.utf8ByteSize = byteCount text.toList := by
  rw [← utf8ByteSize_ofList, String.ofList_toList]

theorem takeBytes_prefix (room : Nat) (cs : List Char) : takeBytes room cs <+: cs := by
  induction cs generalizing room with
  | nil => exact List.nil_prefix
  | cons c rest ih =>
      rw [takeBytes]
      split
      · exact List.cons_prefix_cons.mpr ⟨rfl, ih _⟩
      · exact List.nil_prefix

theorem byteCount_takeBytes_le (room : Nat) (cs : List Char) :
    byteCount (takeBytes room cs) ≤ room := by
  induction cs generalizing room with
  | nil => exact Nat.zero_le room
  | cons c rest ih =>
      rw [takeBytes]
      split
      · have hrest := ih (room - c.utf8Size)
        have hcount : byteCount (c :: takeBytes (room - c.utf8Size) rest) =
            c.utf8Size + byteCount (takeBytes (room - c.utf8Size) rest) := rfl
        omega
      · exact Nat.zero_le room

/-- Every beginning that fits is taken. -/
theorem prefix_takeBytes {room : Nat} {front cs : List Char} (h : front <+: cs)
    (hfits : byteCount front ≤ room) : front <+: takeBytes room cs := by
  induction front generalizing room cs with
  | nil => exact List.nil_prefix
  | cons c front ih =>
      cases cs with
      | nil => cases List.prefix_nil.mp h
      | cons d rest =>
          obtain ⟨rfl, hrest⟩ := List.cons_prefix_cons.mp h
          have hcount : byteCount (c :: front) = c.utf8Size + byteCount front := rfl
          have hroom : c.utf8Size ≤ room := by omega
          rw [takeBytes, if_pos hroom]
          exact List.cons_prefix_cons.mpr ⟨rfl, ih hrest (by omega)⟩

/-- There is no room for the character behind those that are taken. -/
theorem room_lt_of_takeBytes {room : Nat} {cs rest : List Char} {c : Char}
    (h : cs = takeBytes room cs ++ c :: rest) :
    room < byteCount (takeBytes room cs) + c.utf8Size := by
  have hmore : takeBytes room cs ++ [c] <+: cs := ⟨rest, by simpa using h.symm⟩
  by_contra hle
  have hfits : byteCount (takeBytes room cs ++ [c]) ≤ room := by
    rw [byteCount_append]
    exact Nat.le_of_not_lt hle
  have hlength := (prefix_takeBytes hmore hfits).length_le
  rw [List.length_append] at hlength
  exact absurd hlength (Nat.not_succ_le_self _)

theorem utf8ByteSize_cut (room : Nat) (text : String) :
    (cut room text).utf8ByteSize = byteCount (takeBytes room text.toList) :=
  utf8ByteSize_ofList _

/-- The cut text is the longest that fits. -/
theorem cut_isLongestFront (room : Nat) (text : String) :
    IsLongestFront room text (cut room text) := by
  obtain ⟨rest, hrest⟩ := takeBytes_prefix room text.toList
  refine ⟨⟨String.ofList rest, ?_⟩, ?_, ?_⟩
  · rw [cut, ← String.ofList_append, hrest, String.ofList_toList]
  · rw [utf8ByteSize_cut]
    exact byteCount_takeBytes_le room text.toList
  · intro other back htext hfits
    have hfront : other.toList <+: text.toList :=
      ⟨back.toList, by rw [htext, String.toList_append]⟩
    rw [utf8ByteSize_eq_byteCount] at hfits
    obtain ⟨more, hmore⟩ := prefix_takeBytes hfront hfits
    rw [utf8ByteSize_cut, utf8ByteSize_eq_byteCount, ← hmore, byteCount_append]
    exact Nat.le_add_right _ _

/-- Less than one character of four bytes is left of the room when a text is too long for it. -/
theorem room_le_utf8ByteSize_cut {room : Nat} {text : String} (h : room < text.utf8ByteSize) :
    room ≤ (cut room text).utf8ByteSize + 3 := by
  obtain ⟨rest, hrest⟩ := takeBytes_prefix room text.toList
  rw [utf8ByteSize_cut]
  cases rest with
  | nil =>
      -- All characters would have been taken, and they do not fit.
      have hfits := byteCount_takeBytes_le room text.toList
      rw [List.append_nil] at hrest
      rw [hrest, ← utf8ByteSize_eq_byteCount] at hfits
      exact absurd hfits (Nat.not_le_of_lt h)
  | cons c rest =>
      have hroom := room_lt_of_takeBytes hrest.symm
      have hsize := c.utf8Size_le_four
      omega

/-- Whether a text may be cut at so many bytes: at its end, or in front of the first byte of a
character. -/
def isBoundary (text : String) (place : Nat) : Bool :=
  if h : place < text.toByteArray.size then text.toByteArray[place].IsUTF8FirstByte
  else place = text.toByteArray.size

/-- The text in front of a place, read from its bytes. There is none in front of a place inside a
character or behind the end. -/
def upTo? (text : String) (place : Nat) : Option String :=
  if isBoundary text place then String.fromUTF8? (text.toByteArray.extract 0 place) else none

/-- Goes back from a place until the text may be cut. -/
def lastBoundary (text : String) : (place : Nat) → Nat
  | 0 => 0
  | place + 1 => if isBoundary text (place + 1) then place + 1 else lastBoundary text place

/-- Cuts a text at the last place there is room for, found from behind. -/
def cutFromBehind? (room : Nat) (text : String) : Option String :=
  if text.utf8ByteSize ≤ room then some text else upTo? text (lastBoundary text room)

/-- Boundaries are the places behind beginnings of whole characters. -/
theorem isBoundary_iff {text : String} {place : Nat} :
    isBoundary text place = true ↔
      ∃ front back, text = front ++ back ∧ front.utf8ByteSize = place := by
  have hvalid : isBoundary text place = (String.Pos.Raw.mk place).isValid text := by
    by_cases hplace : place < text.toByteArray.size
    · have hlt : String.Pos.Raw.mk place < text.rawEndPos := hplace
      rw [isBoundary, dif_pos hplace, String.Pos.Raw.isValid, dif_pos hlt]
      rfl
    · have hlt : ¬ String.Pos.Raw.mk place < text.rawEndPos := hplace
      rw [isBoundary, dif_neg hplace, String.Pos.Raw.isValid, dif_neg hlt, decide_eq_decide,
        String.Pos.Raw.ext_iff]
      rfl
  rw [hvalid, String.Pos.Raw.isValid_eq_true_iff, String.Pos.Raw.isValid_iff_exists_append]
  simp only [String.Pos.Raw.ext_iff, String.byteIdx_rawEndPos, eq_comm]

theorem upTo?_front (front back : String) :
    upTo? (front ++ back) front.utf8ByteSize = some front := by
  have hbytes : (front ++ back).toByteArray.extract 0 front.utf8ByteSize = front.toByteArray := by
    rw [String.toByteArray_append]
    exact ByteArray.extract_append_eq_left rfl
  rw [upTo?, if_pos (isBoundary_iff.mpr ⟨front, back, rfl, rfl⟩), hbytes, String.fromUTF8?,
    dif_pos front.isValidUTF8]
  rfl

theorem lastBoundary_le (text : String) (room : Nat) : lastBoundary text room ≤ room := by
  induction room with
  | zero => exact Nat.le_refl 0
  | succ place ih =>
      rw [lastBoundary]
      split
      · exact Nat.le_refl _
      · exact Nat.le_succ_of_le ih

theorem isBoundary_lastBoundary (text : String) (room : Nat) :
    isBoundary text (lastBoundary text room) = true := by
  induction room with
  | zero => exact isBoundary_iff.mpr ⟨"", text, String.empty_append.symm, String.utf8ByteSize_empty⟩
  | succ place ih =>
      rw [lastBoundary]
      split
      · assumption
      · exact ih

/-- No boundary is passed over. -/
theorem le_lastBoundary {text : String} {room place : Nat} (hplace : isBoundary text place = true)
    (hle : place ≤ room) : place ≤ lastBoundary text room := by
  induction room with
  | zero => exact hle
  | succ last ih =>
      rw [lastBoundary]
      split
      · exact hle
      · rename_i hnone
        apply ih
        have hne : place ≠ last + 1 := by
          rintro rfl
          exact hnone hplace
        omega

/-- The place that is found from behind is the end of the cut text. -/
theorem lastBoundary_eq (room : Nat) (text : String) :
    lastBoundary text room = (cut room text).utf8ByteSize := by
  have hcut := cut_isLongestFront room text
  obtain ⟨front, back, htext, hsize⟩ := isBoundary_iff.mp (isBoundary_lastBoundary text room)
  obtain ⟨rest, hrest⟩ := hcut.is_front
  have hboundary : isBoundary text (cut room text).utf8ByteSize = true :=
    isBoundary_iff.mpr ⟨cut room text, rest, hrest, rfl⟩
  apply Nat.le_antisymm
  · rw [← hsize]
    apply hcut.longest front back htext
    rw [hsize]
    exact lastBoundary_le text room
  · exact le_lastBoundary hboundary hcut.fits

/-- A text that fits is not cut. -/
theorem cut_of_fits {room : Nat} {text : String} (h : text.utf8ByteSize ≤ room) :
    cut room text = text := by
  have hcut := cut_isLongestFront room text
  obtain ⟨back, hback⟩ := hcut.is_front
  have hsize : text.utf8ByteSize ≤ (cut room text).utf8ByteSize :=
    hcut.longest text "" String.append_empty.symm h
  have hsum : text.utf8ByteSize = (cut room text).utf8ByteSize + back.utf8ByteSize := by
    rw [← String.utf8ByteSize_append, ← hback]
  have hnothing : back = "" := String.utf8ByteSize_eq_zero_iff.mp (by omega)
  rw [hnothing, String.append_empty] at hback
  exact hback.symm

/-- From behind, the same beginning is found, and never a place where the text may not be cut. -/
theorem cutFromBehind?_eq (room : Nat) (text : String) :
    cutFromBehind? room text = some (cut room text) := by
  rw [cutFromBehind?]
  split
  · rename_i hfits
    rw [cut_of_fits hfits]
  · obtain ⟨back, hback⟩ := (cut_isLongestFront room text).is_front
    have hfound := upTo?_front (cut room text) back
    rwa [← hback, ← lastBoundary_eq] at hfound

end BoundSql.Text
