import BoundSql.Text.Case
import BoundSql.Text.Words
import Mathlib.Data.List.Basic

/-!
Nothing is lost when a name is cut into words: together the words are the letters and digits of the
name, in their order, and none of them is empty. A word does not get lost in another case either. So
a name without letters and digits, and no other, has no words.
-/

namespace BoundSql.Text

open Letter

theorem lowerForm_ne_nil (c : Char) : lowerForm c ≠ [] := by
  rw [lowerForm]
  split <;> exact List.cons_ne_nil _ _

/-- No character has an empty sequence as its upper-case form. -/
theorem upperForm_ne_nil (c : Char) : upperForm c ≠ [] := by
  have htable : ∀ entry ∈ toUpperSequences, entry.2 ≠ [] := by decide
  rw [upperForm]
  split
  · next codes hcodes =>
      rw [List.lookup_eq_some_iff] at hcodes
      obtain ⟨front, back, hsplit, _⟩ := hcodes
      have hmem : (c.toNat, codes) ∈ toUpperSequences := by
        rw [hsplit]
        exact List.mem_append_right front List.mem_cons_self
      simpa using htable _ hmem
  · exact List.cons_ne_nil _ _

theorem lowerWord_eq_nil_iff {word : List Char} : lowerWord word = [] ↔ word = [] := by
  fun_cases lowerWord with
  | case1 => exact Iff.rfl
  | case2 => simp
  | case3 c _ => simp [lowerForm_ne_nil c]
  | case4 c rest _ => simp [lowerForm_ne_nil c]

theorem upperWord_eq_nil_iff {word : List Char} : upperWord word = [] ↔ word = [] := by
  cases word with
  | nil => exact Iff.rfl
  | cons c rest => simp [upperWord, upperForm_ne_nil c]

theorem capitalWord_eq_nil_iff {word : List Char} : capitalWord word = [] ↔ word = [] := by
  cases word with
  | nil => exact Iff.rfl
  | cons c rest => simp [capitalWord, upperForm_ne_nil c]

theorem lowerFrom_eq_nil_iff {before cs : List Char} : lowerFrom before cs = [] ↔ cs = [] := by
  cases cs with
  | nil => exact Iff.rfl
  | cons c rest =>
      have hform : (if c = 'Σ' then
          if touchesCased before && !touchesCased rest then ['ς'] else ['σ']
        else lowerForm c) ≠ [] := by
        split
        · split <;> exact List.cons_ne_nil _ _
        · exact lowerForm_ne_nil c
      simp only [lowerFrom, List.append_eq_nil_iff, hform, false_and, reduceCtorEq]

theorem lowerText_eq_empty_iff {text : String} : lowerText text = "" ↔ text = "" := by
  rw [lowerText, String.ofList_eq_empty_iff, lowerFrom_eq_nil_iff, String.toList_eq_nil_iff]

theorem upperText_eq_empty_iff {text : String} : upperText text = "" ↔ text = "" := by
  rw [upperText, String.ofList_eq_empty_iff, upperWord_eq_nil_iff, String.toList_eq_nil_iff]

/-- Splitting into pieces drops what is neither a letter nor a digit, and nothing else. -/
theorem flatten_splitPieces (cs : List Char) :
    (splitPieces cs).flatten = cs.filter isAlphanumeric := by
  rw [splitPieces]
  induction cs with
  | nil => rfl
  | cons c rest ih =>
      rw [List.splitOnP_cons_eq_if_modifyHead]
      cases hc : isAlphanumeric c with
      | false => simp [hc, ih]
      | true =>
          obtain ⟨first, others, hpieces⟩ := List.exists_cons_of_ne_nil
            (List.splitOnP_ne_nil (fun c => !isAlphanumeric c) rest)
          rw [hpieces] at ih
          simpa [hc, hpieces] using ih

/-- Splitting at capitals drops nothing. -/
theorem flatten_splitCapitals (shown : LetterCase) (word cs : List Char) :
    (splitCapitals shown word cs).flatten = word.reverse ++ cs := by
  fun_induction splitCapitals shown word cs with
  | case1 shown word hempty => simp [List.isEmpty_iff.mp hempty]
  | case2 => simp
  | case3 => simp
  | case4 _ _ _ _ _ _ ih => simp [ih]
  | case5 _ _ _ _ _ _ _ ih => simp [ih]
  | case6 _ _ _ _ _ _ _ ih => simp [ih]

/-- The words of a run are not empty: one that is unfinished and empty has shown no case yet. -/
theorem nil_notMem_splitCapitals {shown : LetterCase} {word : List Char}
    (hword : word = [] → shown = .unknown) (cs : List Char) :
    [] ∉ splitCapitals shown word cs := by
  fun_induction splitCapitals shown word cs with
  | case1 => exact List.not_mem_nil
  | case2 shown word hnonempty => simpa using hnonempty
  | case3 => simp
  | case4 _ _ _ _ _ _ ih => simp [ih]
  | case5 shown word c next rest _ hcapital ih =>
      have hshown : shown = .upper := by
        simp only [Bool.and_eq_true, decide_eq_true_eq] at hcapital
        exact hcapital.1.1
      have hne : word ≠ [] := by
        intro hempty
        rw [hshown] at hword
        cases hword hempty
      simp [ih, hne]
  | case6 _ _ _ _ _ _ _ ih => simp [ih]

/-- The words of a name hold its letters and digits in their order. -/
theorem flatten_words (name : String) :
    (words name).flatten = name.toList.filter isAlphanumeric := by
  have hpiece (piece : List Char) : (splitCapitals .unknown [] piece).flatten = piece := by
    rw [flatten_splitCapitals]
    rfl
  rw [words, ← flatten_splitPieces]
  induction splitPieces name.toList with
  | nil => rfl
  | cons first rest ih =>
      rw [List.flatMap_cons, List.flatten_append, hpiece, ih, List.flatten_cons]

/-- No word of a name is empty. -/
theorem nil_notMem_words (name : String) : [] ∉ words name := by
  rw [words, List.mem_flatMap]
  rintro ⟨piece, _, hmem⟩
  exact nil_notMem_splitCapitals (fun _ => rfl) piece hmem

/-- Only a name without letters and digits has no words. -/
theorem words_eq_nil_iff {name : String} :
    words name = [] ↔ ∀ c ∈ name.toList, isAlphanumeric c = false := by
  have hflat : words name = [] ↔ (words name).flatten = [] := by
    constructor
    · intro hnone
      rw [hnone]
      rfl
    · intro hflat
      rw [List.flatten_eq_nil_iff] at hflat
      refine List.eq_nil_iff_forall_not_mem.mpr fun word hword => ?_
      rw [hflat word hword] at hword
      exact nil_notMem_words name hword
  rw [hflat, flatten_words, List.filter_eq_nil_iff]
  simp only [Bool.not_eq_true]

end BoundSql.Text
