/-!
Cutting a text to a number of UTF-8 bytes without breaking a character.
-/

namespace BoundSql.Text

/-- The characters from the front that fit into so many bytes, up to the first that does not. -/
def takeBytes : Nat → List Char → List Char
  | _, [] => []
  | room, c :: rest =>
      if c.utf8Size ≤ room then c :: takeBytes (room - c.utf8Size) rest else []

/-- The longest beginning of a text that is made of whole characters and has at most `room`
bytes. -/
def cut (room : Nat) (text : String) : String :=
  String.ofList (takeBytes room text.toList)

end BoundSql.Text
