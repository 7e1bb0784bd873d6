import BoundSql.Letter.Case
import BoundSql.Letter.Mapping

/-!
Words and whole texts in lower or upper case. The only letter whose form depends on its place is the
capital sigma, which at the end of a word becomes the final one.
-/

namespace BoundSql.Text

open Letter

/-- A word in lower case. A capital sigma at its end takes the final form. -/
def lowerWord : List Char → List Char
  | [] => []
  | [c] => if c = 'Σ' then ['ς'] else lowerForm c
  | c :: rest => lowerForm c ++ lowerWord rest

def upperWord (word : List Char) : List Char :=
  word.flatMap upperForm

/-- A word with a capital first letter and the rest in lower case. -/
def capitalWord : List Char → List Char
  | [] => []
  | c :: rest => upperForm c ++ lowerWord rest

/-- Whether the nearest character that is not passed over is a letter with case. -/
def touchesCased (cs : List Char) : Bool :=
  (cs.dropWhile isCaseIgnorable).head?.any isCased

/-- A text in lower case, where `before` holds what stands in front of it, the nearest character
first. A capital sigma takes the final form after a letter when no letter follows. -/
def lowerFrom (before : List Char) : List Char → List Char
  | [] => []
  | c :: rest =>
      (if c = 'Σ' then
        if touchesCased before && !touchesCased rest then ['ς'] else ['σ']
      else lowerForm c) ++ lowerFrom (c :: before) rest

/-- A whole text in lower case. -/
def lowerText (text : String) : String :=
  String.ofList (lowerFrom [] text.toList)

/-- A whole text in upper case. -/
def upperText (text : String) : String :=
  String.ofList (upperWord text.toList)

end BoundSql.Text
