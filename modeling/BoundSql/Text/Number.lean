/-!
Whole numbers in fixed notations: decimal digits filled up with zeros, and hexadecimal digits.
-/

namespace BoundSql.Text

/-- Decimal digits, filled up with zeros in front to at least `width`. -/
def padded (width n : Nat) : String :=
  String.ofList ((Nat.toDigits 10 n).leftpad width '0')

/-- The lowest `width` hexadecimal digits of a number, in lower case. -/
def hexDigits : (width : Nat) → (n : Nat) → List Char
  | 0, _ => []
  | width + 1, n => hexDigits width (n / 16) ++ [Nat.digitChar (n % 16)]

end BoundSql.Text
