import BoundSql.Proofs.Identifier
import BoundSql.Proofs.Text.Pieces

/-!
The quoted runs of a text. The marks of a text are paired from left to right; what stands between
the two marks of a pair is a run, and the text with all of its runs left empty is the frame. Where
every piece of a text closes the pairs that it opens, the runs of the text are those of its pieces,
and so is the frame.
-/

namespace BoundSql.Identifier

/-- A text taken apart at its marks. -/
structure Runs where
  /-- What stands between the marks, in the order of the text. -/
  contents : List String
  /-- The text with nothing between the marks. -/
  frame : List Char

/-- Takes a text apart. Inside of a pair, `inside` is the run so far. There is no result if the last
mark has no partner. -/
def readRuns (inside : Option (List Char)) : List Char → Option Runs
  | [] =>
      match inside with
      | none => some ⟨[], []⟩
      | some _ => none
  | c :: rest =>
      match inside with
      | none =>
          if c = mark then readRuns (some []) rest
          else (readRuns none rest).map fun runs => ⟨runs.contents, c :: runs.frame⟩
      | some run =>
          if c = mark then
            (readRuns none rest).map fun runs =>
              ⟨String.ofList run :: runs.contents, mark :: mark :: runs.frame⟩
          else readRuns (some (run ++ [c])) rest

/-- The quoted runs of a text and its frame. -/
def runs? (text : String) : Option Runs :=
  readRuns none text.toList

theorem readRuns_mark (rest : List Char) :
    readRuns none (mark :: rest) = readRuns (some []) rest := by
  simp [readRuns]

theorem readRuns_outside {c : Char} (hc : c ≠ mark) (rest : List Char) :
    readRuns none (c :: rest) =
      (readRuns none rest).map fun runs => ⟨runs.contents, c :: runs.frame⟩ := by
  simp [readRuns, hc]

theorem readRuns_closing (run rest : List Char) :
    readRuns (some run) (mark :: rest) =
      (readRuns none rest).map fun runs =>
        ⟨String.ofList run :: runs.contents, mark :: mark :: runs.frame⟩ := by
  simp [readRuns]

theorem readRuns_inside {c : Char} (hc : c ≠ mark) (run rest : List Char) :
    readRuns (some run) (c :: rest) = readRuns (some (run ++ [c])) rest := by
  simp [readRuns, hc]

/-- A piece that closes its pairs is taken apart on its own, also when the text before it has left
a pair open. -/
theorem readRuns_append {inside : Option (List Char)} {front back : List Char}
    {runs runs' : Runs} (hfront : readRuns inside front = some runs)
    (hback : readRuns none back = some runs') :
    readRuns inside (front ++ back) =
      some ⟨runs.contents ++ runs'.contents, runs.frame ++ runs'.frame⟩ := by
  induction front generalizing inside runs with
  | nil =>
      cases inside with
      | none =>
          cases hfront
          exact hback
      | some run => cases hfront
  | cons c rest ih =>
      rw [List.cons_append]
      by_cases hc : c = mark
      · subst hc
        cases inside with
        | none =>
            rw [readRuns_mark] at hfront ⊢
            exact ih hfront
        | some run =>
            rw [readRuns_closing] at hfront ⊢
            obtain ⟨others, hothers, rfl⟩ := Option.map_eq_some_iff.mp hfront
            rw [ih hothers]
            rfl
      · cases inside with
        | none =>
            rw [readRuns_outside hc] at hfront ⊢
            obtain ⟨others, hothers, rfl⟩ := Option.map_eq_some_iff.mp hfront
            rw [ih hothers]
            rfl
        | some run =>
            rw [readRuns_inside hc] at hfront ⊢
            exact ih hfront

/-- The quoted runs of a text are certain names, and it has a certain frame. -/
def Framed (text : String) (names : List String) (frame : String) : Prop :=
  runs? text = some ⟨names, frame.toList⟩

theorem framed_empty : Framed "" [] "" :=
  rfl

/-- Texts that are framed on their own are framed together, their names one after the other. -/
theorem Framed.append {front back frontFrame backFrame : String} {names names' : List String}
    (hfront : Framed front names frontFrame) (hback : Framed back names' backFrame) :
    Framed (front ++ back) (names ++ names') (frontFrame ++ backFrame) := by
  unfold Framed runs? at *
  rw [String.toList_append, String.toList_append]
  exact readRuns_append hfront hback

/-- A text in which nothing is quoted. -/
def Unquoted (text : String) : Prop :=
  mark ∉ text.toList

instance (text : String) : Decidable (Unquoted text) :=
  inferInstanceAs (Decidable (mark ∉ text.toList))

@[simp]
theorem unquoted_append {front back : String} :
    Unquoted (front ++ back) ↔ Unquoted front ∧ Unquoted back := by
  simp [Unquoted]

/-- A text without a mark is its own frame. -/
theorem framed_unquoted {text : String} (h : Unquoted text) : Framed text [] text := by
  unfold Unquoted at h
  unfold Framed runs?
  generalize text.toList = chars at h
  induction chars with
  | nil => rfl
  | cons c rest ih =>
      obtain ⟨hc, hrest⟩ := List.ne_and_not_mem_of_not_mem_cons h
      rw [readRuns_outside hc.symm, ih hrest]
      rfl

/-- A name that is written as two marks with nothing between them. -/
def blank : String := String.singleton mark

theorem quote_blank : quote blank = String.singleton mark ++ String.singleton mark := by
  decide

/-- Inside of a run everything up to the next mark belongs to it. -/
private theorem readRuns_run {chars : List Char} (h : mark ∉ chars) (run : List Char) :
    readRuns (some run) (chars ++ [mark]) =
      some ⟨[String.ofList (run ++ chars)], [mark, mark]⟩ := by
  induction chars generalizing run with
  | nil => simp [readRuns]
  | cons c rest ih =>
      obtain ⟨hc, hrest⟩ := List.ne_and_not_mem_of_not_mem_cons h
      rw [List.cons_append, readRuns_inside hc.symm, ih hrest, List.append_assoc]
      rfl

/-- A plain name is a run of its own. -/
theorem framed_quote {name : String} (h : IsPlain name) :
    Framed (quote name) [name] (quote blank) := by
  have hchars : (quote name).toList = mark :: (name.toList ++ [mark]) := by
    simp [quote_of_isPlain h]
  unfold Framed runs?
  rw [hchars, readRuns_mark, readRuns_run h.no_mark, quote_blank]
  simp

theorem composes_framed : Text.Composes Framed :=
  ⟨framed_empty, Framed.append⟩

/-- A text in front in which nothing is quoted. -/
theorem Framed.after {front text frame : String} {names : List String}
    (htext : Framed text names frame) (hfront : Unquoted front) :
    Framed (front ++ text) names (front ++ frame) :=
  composes_framed.after (framed_unquoted hfront) htext

/-- A text behind in which nothing is quoted. -/
theorem Framed.before {back text frame : String} {names : List String}
    (htext : Framed text names frame) (hback : Unquoted back) :
    Framed (text ++ back) names (frame ++ back) :=
  composes_framed.before (framed_unquoted hback) htext

theorem framed_intercalate {α : Type} {separator : String} (hseparator : Unquoted separator)
    (text : α → String) (names : α → List String) (frame : α → String) (xs : List α)
    (hframed : ∀ x ∈ xs, Framed (text x) (names x) (frame x)) :
    Framed (separator.intercalate (xs.map text)) (xs.flatMap names)
      (separator.intercalate (xs.map frame)) :=
  composes_framed.intercalate (framed_unquoted hseparator) text names frame xs hframed

end BoundSql.Identifier
