import Mathlib.Data.List.DropRight
import BoundSql.Text.Trim

/-!
What trimming leaves of a text, and what is left of a text without its first word. A text that
begins with a keyword and does not end in white space loses the keyword, the space after it, and
nothing else, whatever white space stands further on.
-/

namespace BoundSql.Text

/-- A text whose last character is not white space. -/
def EndsSolid (text : String) : Prop :=
  ∃ last, text.toList.getLast? = some last ∧ isBlank last = false

/-- A text whose last character is one of some. -/
def EndsIn (closings : List Char) (text : String) : Prop :=
  ∃ last ∈ closings, text.toList.getLast? = some last

/-- A word that can be taken off the front of a text: it has no space in it and does not begin with
white space. -/
def IsKeyword (word : String) : Prop :=
  ∃ first rest, word.toList = first :: rest ∧ isBlank first = false ∧ ' ' ∉ first :: rest

/-- What is left of a text without the characters of a class at its ends. All that stands around it
in the text is of the class, and it neither begins nor ends with such a character. -/
structure TrimsTo (drop : Char → Bool) (text core : String) : Prop where
  around : ∃ front back, text = front ++ core ++ back ∧
    (∀ c ∈ front.toList, drop c = true) ∧ ∀ c ∈ back.toList, drop c = true
  first_kept : ∀ c ∈ core.toList.head?, drop c = false
  last_kept : ∀ c ∈ core.toList.getLast?, drop c = false

theorem trimEnds_eq_rdropWhile (drop : Char → Bool) (text : String) :
    trimEnds drop text = String.ofList ((text.toList.dropWhile drop).rdropWhile drop) := rfl

theorem endsSolid_append (text : String) {tail : String} (h : EndsSolid tail) :
    EndsSolid (text ++ tail) := by
  obtain ⟨last, hlast, hsolid⟩ := h
  refine ⟨last, ?_, hsolid⟩
  rw [String.toList_append, List.getLast?_append, hlast, Option.some_or]

theorem endsIn_append {closings : List Char} (text : String) {tail : String}
    (h : EndsIn closings tail) : EndsIn closings (text ++ tail) := by
  obtain ⟨last, hclosing, hlast⟩ := h
  refine ⟨last, hclosing, ?_⟩
  rw [String.toList_append, List.getLast?_append, hlast, Option.some_or]

/-- Closings without white space end a text solidly. -/
theorem EndsIn.endsSolid {closings : List Char} {text : String} (h : EndsIn closings text)
    (hsolid : closings.any isBlank = false) : EndsSolid text := by
  obtain ⟨last, hclosing, hlast⟩ := h
  refine ⟨last, hlast, ?_⟩
  simpa using List.any_eq_false.mp hsolid last hclosing

theorem endsSolid_ne_empty {text : String} (h : EndsSolid text) : text ≠ "" := by
  rintro rfl
  obtain ⟨last, hlast, _⟩ := h
  cases hlast

/-- Nothing is trimmed off a text when neither its first nor its last character is to be dropped. -/
theorem trimEnds_eq_self {drop : Char → Bool} {text : String}
    (hfirst : ∀ c ∈ text.toList.head?, drop c = false)
    (hlast : ∀ c ∈ text.toList.getLast?, drop c = false) :
    trimEnds drop text = text := by
  have hfront : text.toList.dropWhile drop = text.toList := by
    cases hchars : text.toList with
    | nil => rfl
    | cons first rest =>
        have hkeep : drop first = false := hfirst first (by simp [hchars])
        rw [List.dropWhile_cons_of_neg (by simp [hkeep])]
  have hback : text.toList.rdropWhile drop = text.toList := by
    rw [List.rdropWhile_eq_self_iff]
    intro hne
    simp [hlast _ (List.getLast?_eq_some_getLast hne)]
  rw [trimEnds_eq_rdropWhile, hfront, hback, String.ofList_toList]

theorem mem_of_mem_trimEnds {drop : Char → Bool} {text : String} {c : Char}
    (h : c ∈ (trimEnds drop text).toList) : c ∈ text.toList := by
  rw [trimEnds_eq_rdropWhile, String.toList_ofList] at h
  exact List.dropWhile_subset drop ((List.rdropWhile_prefix drop _).subset h)

/-- Trimming leaves the core of a text. -/
theorem trimsTo_trimEnds (drop : Char → Bool) (text : String) :
    TrimsTo drop text (trimEnds drop text) := by
  have hchars : (trimEnds drop text).toList = (text.toList.dropWhile drop).rdropWhile drop := by
    rw [trimEnds_eq_rdropWhile, String.toList_ofList]
  refine ⟨⟨String.ofList (text.toList.takeWhile drop),
    String.ofList ((text.toList.dropWhile drop).rtakeWhile drop), ?_, ?_, ?_⟩, ?_, ?_⟩
  · rw [← String.toList_inj, String.toList_append, String.toList_append, hchars,
      String.toList_ofList, String.toList_ofList, List.append_assoc,
      List.rdropWhile_append_rtakeWhile, List.takeWhile_append_dropWhile]
  · intro c hc
    rw [String.toList_ofList] at hc
    exact List.mem_takeWhile_imp hc
  · intro c hc
    rw [String.toList_ofList] at hc
    exact List.mem_rtakeWhile_imp hc
  · intro c hc
    rw [hchars] at hc
    have hfirst := List.mem_head?_append_of_mem_head?
      (t := (text.toList.dropWhile drop).rtakeWhile drop) hc
    rw [List.rdropWhile_append_rtakeWhile] at hfirst
    have hkept := List.head?_dropWhile_not drop text.toList
    rwa [Option.mem_def.mp hfirst] at hkept
  · intro c hc
    rw [hchars] at hc
    have hne := List.ne_nil_of_mem (List.mem_of_getLast? hc)
    have hkept := List.rdropWhile_last_not drop _ hne
    rw [List.getLast?_eq_some_getLast hne] at hc
    cases hc
    simpa using hkept

theorem trimEnds_trimEnds (drop : Char → Bool) (text : String) :
    trimEnds drop (trimEnds drop text) = trimEnds drop text := by
  have h := trimsTo_trimEnds drop text
  exact trimEnds_eq_self h.first_kept h.last_kept

/-- Characters to be dropped make no difference where they stand at an end. -/
theorem trimEnds_around {drop : Char → Bool} {front back : String} (text : String)
    (hfront : ∀ c ∈ front.toList, drop c = true) (hback : ∀ c ∈ back.toList, drop c = true) :
    trimEnds drop (front ++ text ++ back) = trimEnds drop text := by
  have hend (chars : List Char) :
      (chars ++ back.toList).rdropWhile drop = chars.rdropWhile drop := by
    have hreverse : ∀ c ∈ back.toList.reverse, drop c = true := by simpa using hback
    rw [List.rdropWhile, List.rdropWhile, List.reverse_append,
      List.dropWhile_append_of_pos hreverse]
  have hnone : back.toList.dropWhile drop = [] := List.dropWhile_eq_nil_iff.mpr hback
  rw [trimEnds_eq_rdropWhile, trimEnds_eq_rdropWhile, String.toList_append, String.toList_append,
    List.append_assoc, List.dropWhile_append_of_pos hfront, List.dropWhile_append]
  split
  · next hempty => rw [hnone, List.isEmpty_iff.mp hempty]
  · rw [hend]

/-- A text has only one core. -/
theorem TrimsTo.trimEnds_eq {drop : Char → Bool} {text core : String}
    (h : TrimsTo drop text core) : trimEnds drop text = core := by
  obtain ⟨⟨front, back, rfl, hfront, hback⟩, hfirst, hlast⟩ := h
  rw [trimEnds_around core hfront hback, trimEnds_eq_self hfirst hlast]

/-- A text has one trimmed form. -/
theorem trimEnds_eq_iff {drop : Char → Bool} {text core : String} :
    trimEnds drop text = core ↔ TrimsTo drop text core := by
  constructor
  · rintro rfl
    exact trimsTo_trimEnds drop text
  · exact TrimsTo.trimEnds_eq

private theorem dropWhile_word {word : List Char} (rest : List Char) (hspace : ' ' ∉ word) :
    (word ++ ' ' :: rest).dropWhile (· != ' ') = ' ' :: rest := by
  have hall : ∀ c ∈ word, (c != ' ') = true := by
    intro c hc
    rw [bne_iff_ne]
    rintro rfl
    exact hspace hc
  rw [List.dropWhile_append_of_pos hall]
  rfl

theorem dropFirstWord_keyword {word text : String} (hword : IsKeyword word)
    (htext : EndsSolid text) : dropFirstWord (word ++ " " ++ text) = text := by
  obtain ⟨first, rest, hchars, hfirst, hspace⟩ := hword
  obtain ⟨last, hend, hlast⟩ := endsSolid_append (word ++ " ") htext
  have hlist : (word ++ " " ++ text).toList = (first :: rest) ++ ' ' :: text.toList := by
    simp [hchars]
  have htrim : trimEnds isBlank (word ++ " " ++ text) = word ++ " " ++ text :=
    trimEnds_eq_self
      (by intro c hc; rw [hlist] at hc; cases hc; exact hfirst)
      (by intro c hc; rw [hend] at hc; cases hc; exact hlast)
  unfold dropFirstWord
  simp only [htrim, hlist, dropWhile_word text.toList hspace, String.ofList_toList]

end BoundSql.Text
