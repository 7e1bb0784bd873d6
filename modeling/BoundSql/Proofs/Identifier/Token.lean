import BoundSql.Identifier
import BoundSql.Proofs.Text.Trim

/-!
Where a quoted name ends. A reader of SQL takes what stands between two marks for one name, and two
marks in a row inside of it for one mark of the name; the first mark without such a neighbour closes
the name. Quoting takes the marks off both ends of a name and leaves those inside as they are, so a
name is one token just when the marks inside stand in pairs. Any other name closes its own quote.
-/

namespace BoundSql.Identifier

/-- A text in which every mark belongs to a pair of neighbours. -/
inductive Paired : List Char → Prop
  | nil : Paired []
  | pair {rest : List Char} (h : Paired rest) : Paired (mark :: mark :: rest)
  | other {c : Char} {rest : List Char} (hc : c ≠ mark) (h : Paired rest) : Paired (c :: rest)

/-- The first mark of a text that has no partner: all before it are paired. -/
structure LoneMark (chars front back : List Char) : Prop where
  split : chars = front ++ mark :: back
  paired : Paired front
  lone : back.head? ≠ some mark

theorem LoneMark.pair {chars front back : List Char} (h : LoneMark chars front back) :
    LoneMark (mark :: mark :: chars) (mark :: mark :: front) back :=
  ⟨by rw [h.split]; rfl, h.paired.pair, h.lone⟩

theorem LoneMark.other {c : Char} (hc : c ≠ mark) {chars front back : List Char}
    (h : LoneMark chars front back) : LoneMark (c :: chars) (c :: front) back :=
  ⟨by rw [h.split]; rfl, h.paired.other hc, h.lone⟩

/-- Reads a name whose opening mark has been read: what stands before its closing mark, and what
follows that. -/
def readInner : List Char → Option (List Char × List Char)
  | [] => none
  | [c] => if c = mark then some ([], []) else none
  | c :: d :: rest =>
      if c ≠ mark then (readInner (d :: rest)).map (Prod.map (c :: ·) id)
      else if d = mark then (readInner rest).map (Prod.map (fun inner => c :: d :: inner) id)
      else some ([], d :: rest)

/-- Reads a quoted name at the beginning of a text. -/
def readToken : List Char → Option (List Char × List Char)
  | [] => none
  | c :: rest => if c = mark then readInner rest else none

/-- One quoted name and nothing else: a mark at each end, and every mark between them in a pair. -/
def IsToken (text : String) : Prop :=
  ∃ inner, text.toList = mark :: (inner ++ [mark]) ∧ Paired inner

theorem readInner_other {c : Char} (hc : c ≠ mark) (rest : List Char) :
    readInner (c :: rest) = (readInner rest).map (Prod.map (c :: ·) id) := by
  cases rest with
  | nil => simp [readInner, hc]
  | cons d more => rw [readInner, if_pos hc]

theorem readInner_pair (rest : List Char) :
    readInner (mark :: mark :: rest) =
      (readInner rest).map (Prod.map (fun inner => mark :: mark :: inner) id) := by
  rw [readInner, if_neg (not_not_intro rfl), if_pos rfl]

theorem readInner_closing {rest : List Char} (h : rest.head? ≠ some mark) :
    readInner (mark :: rest) = some ([], rest) := by
  cases rest with
  | nil => rfl
  | cons d more =>
      have hd : d ≠ mark := fun hd => h (congrArg some hd)
      rw [readInner, if_neg (not_not_intro rfl), if_neg hd]

theorem readToken_mark (rest : List Char) : readToken (mark :: rest) = readInner rest := by
  rw [readToken, if_pos rfl]

/-- A text whose marks are all paired does not close a token. -/
theorem readInner_of_paired {chars : List Char} (h : Paired chars) : readInner chars = none := by
  induction h with
  | nil => rfl
  | pair _ ih => rw [readInner_pair, ih]; rfl
  | other hc _ ih => rw [readInner_other hc, ih]; rfl

/-- A token ends at the first mark without a partner. -/
theorem readInner_of_loneMark {chars front back : List Char} (h : LoneMark chars front back) :
    readInner chars = some (front, back) := by
  obtain ⟨rfl, hpaired, hlone⟩ := h
  induction hpaired with
  | nil => exact readInner_closing hlone
  | pair _ ih => rw [List.cons_append, List.cons_append, readInner_pair, ih]; rfl
  | other hc _ ih => rw [List.cons_append, readInner_other hc, ih]; rfl

/-- Either all marks of a text are paired, or there is a first one that is not. -/
theorem paired_or_loneMark (chars : List Char) :
    Paired chars ∨ ∃ front back, LoneMark chars front back := by
  fun_induction readInner chars with
  | case1 => exact Or.inl .nil
  | case2 => exact Or.inr ⟨[], [], rfl, .nil, nofun⟩
  | case3 c hc => exact Or.inl (.other hc .nil)
  | case4 c d rest hc ih =>
      rcases ih with hpaired | ⟨front, back, hlone⟩
      · exact Or.inl (hpaired.other hc)
      · exact Or.inr ⟨c :: front, back, hlone.other hc⟩
  | case5 c rest hc ih =>
      obtain rfl := not_not.mp hc
      rcases ih with hpaired | ⟨front, back, hlone⟩
      · exact Or.inl hpaired.pair
      · exact Or.inr ⟨mark :: mark :: front, back, hlone.pair⟩
  | case6 c d rest hc hd =>
      obtain rfl := not_not.mp hc
      exact Or.inr ⟨[], d :: rest, rfl, .nil, by simpa using hd⟩

/-- A name has no end in it just when its marks are paired. -/
theorem paired_iff {chars : List Char} : Paired chars ↔ readInner chars = none := by
  constructor
  · exact readInner_of_paired
  · intro hnone
    rcases paired_or_loneMark chars with hpaired | ⟨front, back, hlone⟩
    · exact hpaired
    · rw [readInner_of_loneMark hlone] at hnone
      cases hnone

instance (chars : List Char) : Decidable (Paired chars) :=
  decidable_of_iff _ paired_iff.symm

/-- What is left of a name between the marks of its written form. -/
def inner (name : String) : List Char :=
  (Text.trimEnds (· == mark) name).toList

theorem toList_quote {name : String} (hname : name ≠ "") (hexpression : isExpression name = false) :
    (quote name).toList = mark :: (inner name ++ [mark]) := by
  have hquoted : ¬ (name.isEmpty || isExpression name) = true := by simp [hname, hexpression]
  rw [quote, if_neg hquoted]
  simp [inner]

/-- Marks at the end of a name are trimmed. -/
theorem getLast?_inner (name : String) : (inner name).getLast? ≠ some mark := by
  intro hlast
  have hkept := (Text.trimsTo_trimEnds (· == mark) name).last_kept mark hlast
  simp at hkept

/-- The written form of a name that is quoted begins and ends with a mark. It is one token just when
the marks left inside are paired. Then a reader takes the name for what it is, whatever follows it
other than another mark. Otherwise the name closes its own quote, and the reader goes on with the
rest of it outside. -/
theorem quote_isToken_iff {name : String} (hname : name ≠ "")
    (hexpression : isExpression name = false) :
    (quote name).toList = mark :: (inner name ++ [mark]) ∧
      (IsToken (quote name) ↔ Paired (inner name)) ∧
      (Paired (inner name) → ∀ rest : List Char, rest.head? ≠ some mark →
        readToken ((quote name).toList ++ rest) = some (inner name, rest)) ∧
      (¬ Paired (inner name) → ∃ front back, inner name = front ++ mark :: back ∧ back ≠ [] ∧
        ∀ rest : List Char,
          readToken ((quote name).toList ++ rest) = some (front, back ++ mark :: rest)) := by
  have hquote := toList_quote hname hexpression
  have hread (rest : List Char) :
      readToken ((quote name).toList ++ rest) = readInner (inner name ++ mark :: rest) := by
    rw [hquote, List.cons_append, readToken_mark, List.append_assoc, List.singleton_append]
  refine ⟨hquote, ?_, ?_, ?_⟩
  · constructor
    · rintro ⟨other, hother, hpaired⟩
      rw [hquote] at hother
      rwa [List.append_cancel_right (List.cons.inj hother).2]
    · intro hpaired
      exact ⟨inner name, hquote, hpaired⟩
  · intro hpaired rest hrest
    rw [hread]
    exact readInner_of_loneMark ⟨rfl, hpaired, hrest⟩
  · intro hunpaired
    obtain ⟨front, back, hlone⟩ := (paired_or_loneMark (inner name)).resolve_left hunpaired
    have hback : back ≠ [] := by
      rintro rfl
      apply getLast?_inner name
      rw [hlone.split, List.getLast?_concat]
    refine ⟨front, back, hlone.split, hback, ?_⟩
    intro rest
    rw [hread, hlone.split, List.append_assoc]
    apply readInner_of_loneMark
    refine ⟨rfl, hlone.paired, ?_⟩
    rw [List.head?_append_of_ne_nil _ hback]
    exact hlone.lone

/-- A name with a pair of marks inside, and marks of a former quoting at its ends. -/
theorem quote_isToken_of_paired_marks :
    let name := "``a``b`"
    (name ≠ "" ∧ isExpression name = false) ∧ IsToken (quote name) ∧
      readToken ((quote name).toList ++ "=?".toList) = some ("a``b".toList, "=?".toList) := by
  intro name
  have hname : name ≠ "" := by decide
  have hexpression : isExpression name = false := by decide
  have hinner : inner name = "a``b".toList := by decide
  have hpaired : Paired (inner name) := by decide
  obtain ⟨_, htoken, hread, _⟩ := quote_isToken_iff hname hexpression
  have hrest := hread hpaired "=?".toList (by decide)
  rw [hinner] at hrest
  exact ⟨⟨hname, hexpression⟩, htoken.mpr hpaired, hrest⟩

/-- A name that is quoted but does not stay inside of its quote: a reader takes its first letter for
the name, and goes on with a comparison that holds always. -/
theorem not_isToken_quote_with_single_marks :
    let name := "x`OR`1`=`1"
    (name ≠ "" ∧ isExpression name = false) ∧ ¬ IsToken (quote name) ∧
      readToken (quote name).toList = some ("x".toList, "OR`1`=`1`".toList) := by
  intro name
  have hname : name ≠ "" := by decide
  have hexpression : isExpression name = false := by decide
  refine ⟨⟨hname, hexpression⟩, ?_, by decide⟩
  rintro ⟨other, hother, hpaired⟩
  rw [toList_quote hname hexpression] at hother
  rw [← List.append_cancel_right (List.cons.inj hother).2] at hpaired
  revert hpaired
  decide

end BoundSql.Identifier
