/-!
Taking characters off the ends of a text, and the white space that counts as nothing there.
-/

namespace BoundSql.Text

/-- Takes the characters of a class off both ends. -/
def trimEnds (drop : Char → Bool) (text : String) : String :=
  String.ofList ((text.toList.dropWhile drop).reverse.dropWhile drop).reverse

/-- A character with the property White_Space. -/
def isBlank (c : Char) : Bool :=
  (0x9 ≤ c.toNat && c.toNat ≤ 0xd) || c == ' ' || c.toNat == 0x85 || c.toNat == 0xa0 ||
    c.toNat == 0x1680 || (0x2000 ≤ c.toNat && c.toNat ≤ 0x200a) || c.toNat == 0x2028 ||
    c.toNat == 0x2029 || c.toNat == 0x202f || c.toNat == 0x205f || c.toNat == 0x3000

/-- A text without its first word: what follows the first space, once white space at both ends is
gone. A text of a single word stays whole. -/
def dropFirstWord (text : String) : String :=
  let trimmed := trimEnds isBlank text
  match trimmed.toList.dropWhile (· != ' ') with
  | [] => trimmed
  | _ :: rest => String.ofList rest

end BoundSql.Text
