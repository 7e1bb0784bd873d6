import Mathlib.Data.Nat.Digits.Defs
import BoundSql.Proofs.Text.Prefix
import BoundSql.Proofs.Text.Trim

/-!
Reading a text code by code. A code that says itself where it ends can be read whatever follows; for
others it counts what follows: a list ends where no separator comes next, a number where no digit
does. A text of which nothing is known but its last character can still be read before a tail in
which no word ends with such a character.
-/

namespace BoundSql.Text

variable {α : Type}

/-- Nothing follows, or a space does. -/
def Breaks (rest : List Char) : Prop :=
  ∀ c ∈ rest.head?, c = ' '

theorem breaks_nil : Breaks [] := by
  simp [Breaks]

/-- A text that begins with the code of a good item tells which item it is and where its code ends,
given that what follows is of a certain kind. -/
def ReadsBefore (follows : List Char → Prop) (good : α → Prop) (code : α → String) : Prop :=
  ∀ ⦃a b : α⦄ ⦃rest rest' : List Char⦄, good a → good b → follows rest → follows rest' →
    (code a).toList ++ rest = (code b).toList ++ rest' → a = b ∧ rest = rest'

/-- A text that begins with the code of a good item tells which item it is and where its code ends,
whatever follows. -/
def SelfDelimiting (good : α → Prop) (code : α → String) : Prop :=
  ReadsBefore (fun _ => True) good code

/-- What stands behind the first of some texts when they are joined. -/
def afterFirst (separator : String) : List String → List Char
  | [] => []
  | next :: rest => separator.toList ++ (separator.intercalate (next :: rest)).toList

theorem toList_intercalate_cons (separator text : String) (rest : List String) :
    (separator.intercalate (text :: rest)).toList = text.toList ++ afterFirst separator rest := by
  cases rest with
  | nil => simp [afterFirst]
  | cons next rest =>
      rw [String.intercalate_cons_cons, String.toList_append, String.toList_append, afterFirst,
        List.append_assoc]

namespace SelfDelimiting

variable {good : α → Prop} {code : α → String}

theorem read (h : SelfDelimiting good code) {a b : α} (ha : good a) (hb : good b)
    {rest rest' : List Char} (htext : (code a).toList ++ rest = (code b).toList ++ rest') :
    a = b ∧ rest = rest' :=
  h ha hb trivial trivial htext

theorem readsBefore (h : SelfDelimiting good code) (follows : List Char → Prop) :
    ReadsBefore follows good code := by
  intro a b rest rest' ha hb _ _ htext
  exact h.read ha hb htext

/-- A fixed text may stand behind every code. -/
theorem before (h : SelfDelimiting good code) (tail : String) :
    SelfDelimiting good fun a => code a ++ tail := by
  intro a b rest rest' ha hb _ _ htext
  simp only [String.toList_append, List.append_assoc] at htext
  obtain ⟨rfl, hrest⟩ := h.read ha hb htext
  exact ⟨rfl, List.append_cancel_left hrest⟩

/-- A list of some items ends where no separator comes next. -/
theorem separated (h : SelfDelimiting good code) {separator : String} {c : Char}
    (hhead : separator.toList.head? = some c) (hc : c ≠ ' ') :
    ReadsBefore Breaks (fun items => items ≠ [] ∧ ∀ item ∈ items, good item)
      (fun items => separator.intercalate (items.map code)) := by
  intro items items' rest rest' hgood hgood' hbreaks hbreaks' htext
  have hseparator (more : List Char) : ¬ Breaks (separator.toList ++ more) := by
    intro hbreaks
    exact hc (hbreaks c (by simp [hhead]))
  induction items generalizing items' with
  | nil => exact absurd rfl hgood.1
  | cons first more ih =>
      obtain ⟨first', more', rfl⟩ := List.exists_cons_of_ne_nil hgood'.1
      obtain ⟨hfirst, hmore⟩ := List.forall_mem_cons.mp hgood.2
      obtain ⟨hfirst', hmore'⟩ := List.forall_mem_cons.mp hgood'.2
      simp only [List.map_cons, toList_intercalate_cons, List.append_assoc] at htext
      obtain ⟨rfl, hmores⟩ := h.read hfirst hfirst' htext
      match more, more' with
      | [], [] => exact ⟨rfl, hmores⟩
      | [], next' :: more' =>
          simp only [List.map_cons, List.map_nil, afterFirst, List.nil_append,
            List.append_assoc] at hmores
          exact absurd (hmores ▸ hbreaks) (hseparator _)
      | next :: more, [] =>
          simp only [List.map_cons, List.map_nil, afterFirst, List.nil_append,
            List.append_assoc] at hmores
          exact absurd (hmores ▸ hbreaks') (hseparator _)
      | next :: more, next' :: more' =>
          simp only [List.map_cons, afterFirst, List.append_assoc] at hmores
          obtain ⟨hitems, hend⟩ := ih ⟨List.cons_ne_nil next more, hmore⟩
            ⟨List.cons_ne_nil next' more', hmore'⟩ (List.append_cancel_left hmores)
          exact ⟨congrArg (List.cons first) hitems, hend⟩

end SelfDelimiting

/-- The digits of a number end at the space behind it. -/
private theorem takeWhile_digits (n : Nat) {rest : List Char} (hbreaks : Breaks rest) :
    (n.repr.toList ++ rest).takeWhile Char.isDigit = n.repr.toList := by
  have hdigits : ∀ c ∈ n.repr.toList, c.isDigit = true := by
    intro c hc
    rw [Nat.toList_repr] at hc
    exact Nat.isDigit_of_mem_toDigits (by decide) (by decide) hc
  rw [List.takeWhile_append_of_pos hdigits]
  cases rest with
  | nil => simp
  | cons c more =>
      have hspace : c = ' ' := hbreaks c rfl
      rw [hspace, List.takeWhile_cons_of_neg (by decide), List.append_nil]

/-- A number ends where no digit comes next. -/
theorem readsBefore_repr : ReadsBefore Breaks (fun _ => True) Nat.repr := by
  intro n n' rest rest' _ _ hbreaks hbreaks' htext
  have hdigits : n.repr.toList = n'.repr.toList := by
    rw [← takeWhile_digits n hbreaks, htext, takeWhile_digits n' hbreaks']
  rw [hdigits] at htext
  refine ⟨?_, List.append_cancel_left htext⟩
  rw [Nat.toList_repr, Nat.toList_repr] at hdigits
  have hvalue := congrArg (fun digits => Nat.ofDigitChars 10 digits 0) hdigits
  simpa using hvalue

/-- The last characters of the words of a text: those before a space or the end. -/
def wordEnds : List Char → List Char
  | [] => []
  | c :: rest => if rest.headD ' ' = ' ' then c :: wordEnds rest else wordEnds rest

theorem wordEnds_subset (chars : List Char) : wordEnds chars ⊆ chars := by
  induction chars with
  | nil => exact List.Subset.refl []
  | cons c rest ih =>
      rw [wordEnds]
      split
      · exact List.cons_subset_cons c ih
      · exact List.subset_cons_of_subset c ih

/-- Where two texts meet, words can be joined, but none ends in a new way. -/
theorem wordEnds_append_subset (front back : List Char) :
    wordEnds (front ++ back) ⊆ wordEnds front ++ wordEnds back := by
  induction front with
  | nil => exact List.Subset.refl _
  | cons c rest ih =>
      cases rest with
      | nil =>
          rw [List.singleton_append, wordEnds]
          split
          · exact List.Subset.refl _
          · exact List.subset_cons_self c _
      | cons d more =>
          rw [List.cons_append, wordEnds, wordEnds, List.cons_append, List.headD_cons,
            List.headD_cons]
          split
          · exact List.cons_subset_cons c ih
          · exact ih

/-- A word ends where its text does, given that nothing or a space follows. -/
theorem mem_wordEnds {front rest : List Char} {last : Char} (hlast : front.getLast? = some last)
    (hbreaks : Breaks rest) : last ∈ wordEnds (front ++ rest) := by
  obtain ⟨before, rfl⟩ := List.getLast?_eq_some_iff.mp hlast
  rw [List.append_assoc]
  induction before with
  | nil =>
      have hend : rest.headD ' ' = ' ' := by
        cases rest with
        | nil => rfl
        | cons c more => exact hbreaks c rfl
      rw [List.nil_append, List.singleton_append, wordEnds, if_pos hend]
      exact List.mem_cons_self
  | cons c more ih =>
      have hmem := ih List.getLast?_concat
      rw [List.cons_append, wordEnds]
      split
      · exact List.mem_cons_of_mem c hmem
      · exact hmem

theorem wordEnds_concat {chars : List Char} {last : Char} (hspace : ' ' ∉ chars)
    (hlast : last ≠ ' ') : wordEnds (chars ++ [last]) = [last] := by
  induction chars with
  | nil => rfl
  | cons c rest ih =>
      obtain ⟨_, hrest⟩ := List.ne_and_not_mem_of_not_mem_cons hspace
      have hnext : (rest ++ [last]).headD ' ' ≠ ' ' := by
        cases rest with
        | nil => exact hlast
        | cons d more =>
            obtain ⟨hd, _⟩ := List.ne_and_not_mem_of_not_mem_cons hrest
            exact hd.symm
      rw [List.cons_append, wordEnds, if_neg hnext, ih hrest]

/-- No word of a text ends with one of some characters. -/
def NoWordEndsIn (closings : List Char) (chars : List Char) : Prop :=
  ∀ c ∈ wordEnds chars, c ∉ closings

instance (closings chars : List Char) : Decidable (NoWordEndsIn closings chars) :=
  List.decidableBAll (fun c => c ∉ closings) (wordEnds chars)

namespace NoWordEndsIn

variable {closings : List Char}

theorem nil : NoWordEndsIn closings [] := by
  intro c hc
  cases hc

theorem append {front back : List Char} (hfront : NoWordEndsIn closings front)
    (hback : NoWordEndsIn closings back) : NoWordEndsIn closings (front ++ back) := by
  intro c hc
  rcases List.mem_append.mp (wordEnds_append_subset front back hc) with hmem | hmem
  · exact hfront c hmem
  · exact hback c hmem

theorem intercalate {separator : String} (hseparator : NoWordEndsIn closings separator.toList)
    {texts : List String} (h : ∀ text ∈ texts, NoWordEndsIn closings text.toList) :
    NoWordEndsIn closings (separator.intercalate texts).toList := by
  induction texts with
  | nil => exact nil
  | cons text rest ih =>
      obtain ⟨htext, hrest⟩ := List.forall_mem_cons.mp h
      cases rest with
      | nil => simpa using htext
      | cons next rest =>
          rw [String.intercalate_cons_cons, String.toList_append, String.toList_append]
          exact (htext.append hseparator).append (ih hrest)

end NoWordEndsIn

/-- What can follow a text that ends with one of some characters: nothing, or a space, and no word
that ends so. -/
structure BreaksOff (closings : List Char) (rest : List Char) : Prop where
  breaks : Breaks rest
  noWordEndsIn : NoWordEndsIn closings rest

/-- No such text goes on where another one ends. -/
private theorem no_more {closings front more rest : List Char} {last : Char}
    (hclosing : last ∈ closings) (hlast : (front ++ more).getLast? = some last)
    (hbreaks : Breaks rest) (hoff : BreaksOff closings (more ++ rest)) : more = [] := by
  by_contra hmore
  rw [List.getLast?_append_of_ne_nil front hmore] at hlast
  exact hoff.noWordEndsIn last (mem_wordEnds hlast hbreaks) hclosing

/-- Two texts that end so are told apart, for where the shorter one ends, the longer one would have
to go on with words of what follows. -/
theorem readsBefore_endsIn (closings : List Char) :
    ReadsBefore (BreaksOff closings) (EndsIn closings) id := by
  rintro a b rest rest' ⟨last, hclosing, hlast⟩ ⟨last', hclosing', hlast'⟩ hrest hrest' htext
  simp only [id_eq] at htext
  rcases List.append_eq_append_iff.mp htext with ⟨more, hb, rfl⟩ | ⟨more, ha, rfl⟩
  · rw [hb] at hlast'
    have hmore : more = [] := no_more hclosing' hlast' hrest'.breaks hrest
    subst hmore
    exact ⟨String.toList_inj.mp (by simpa using hb.symm), rfl⟩
  · rw [ha] at hlast
    have hmore : more = [] := no_more hclosing hlast hrest.breaks hrest'
    subst hmore
    exact ⟨String.toList_inj.mp (by simpa using ha), rfl⟩

end BoundSql.Text
