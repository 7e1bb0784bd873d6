/-!
Classes of characters and maps between characters as short tables over code points. Letters of two
cases often alternate, so a span may take every second code point.
-/

namespace BoundSql.Letter

/-- The code points from `first` to `last` in steps of `step`. -/
structure Span where
  first : Nat
  last : Nat
  step : Nat

def Span.contains (span : Span) (code : Nat) : Bool :=
  span.first ≤ code && code ≤ span.last && (code - span.first) % span.step == 0

/-- Whether a character is in a table of spans. The spans ascend, so the search stops at the first
one that starts past the character. -/
def listed (spans : List Span) (c : Char) : Bool :=
  match spans with
  | [] => false
  | span :: rest =>
      if c.toNat < span.first then false else span.contains c.toNat || listed rest c

/-- Characters whose other form lies `offset` code points away. -/
structure Shift where
  span : Span
  offset : Int

/-- The form of a character that a table of ascending shifts gives; without one it is its own. -/
def shifted (shifts : List Shift) (c : Char) : Char :=
  match shifts with
  | [] => c
  | shift :: rest =>
      if c.toNat < shift.span.first then c
      else if shift.span.contains c.toNat then Char.ofNat (c.toNat + shift.offset).toNat
      else shifted rest c

end BoundSql.Letter
