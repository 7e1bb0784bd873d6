import BoundSql.Letter.Alphanumeric
import BoundSql.Letter.Case

/-!
The words of a name. A name is split at the characters that are neither letters nor digits, and then
where its capitals show that a word begins: `userID2Name` has the words `user`, `ID2` and `Name`.
-/

namespace BoundSql.Text

open Letter

/-- The case of the letters that a word has shown last; a digit shows none. -/
inductive LetterCase where
  | unknown : LetterCase
  | lower : LetterCase
  | upper : LetterCase
  deriving DecidableEq

/-- The case after one more character. -/
def LetterCase.after (before : LetterCase) (c : Char) : LetterCase :=
  if isLowercase c then .lower else if isUppercase c then .upper else before

/-- Splits a run of letters and digits before a capital that follows a lower-case letter, and
before the last capital of several when a lower-case letter follows. `word` holds the characters
of the unfinished word, the latest first. -/
def splitCapitals (shown : LetterCase) (word : List Char) : List Char → List (List Char)
  | [] => if word.isEmpty then [] else [word.reverse]
  | [c] => [(c :: word).reverse]
  | c :: next :: rest =>
      if shown.after c = .lower && isUppercase next then
        (c :: word).reverse :: splitCapitals .unknown [] (next :: rest)
      else if shown = .upper && isUppercase c && isLowercase next then
        word.reverse :: splitCapitals .unknown [c] (next :: rest)
      else splitCapitals (shown.after c) (c :: word) (next :: rest)

/-- The pieces between characters that are neither letters nor digits; some may be empty. -/
def splitPieces (cs : List Char) : List (List Char) :=
  cs.splitOnP (fun c => !isAlphanumeric c)

/-- The words of a name. -/
def words (name : String) : List (List Char) :=
  (splitPieces name.toList).flatMap (splitCapitals .unknown [])

end BoundSql.Text
