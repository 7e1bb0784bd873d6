import BoundSql.Text.Number

/-!
Universally unique identifiers: 128 bits, written as 32 hexadecimal digits in five groups.
-/

namespace BoundSql

/-- An identifier as one number of 128 bits. -/
structure Uuid where
  bits : BitVec 128
  deriving DecidableEq

/-- Groups of 8, 4, 4, 4 and 12 lower-case digits, joined by hyphens. -/
def Uuid.text (id : Uuid) : String :=
  let digits := Text.hexDigits 32 id.bits.toNat
  "-".intercalate (([(0, 8), (8, 4), (12, 4), (16, 4), (20, 12)] : List (Nat × Nat)).map
    fun (start, length) => String.ofList ((digits.drop start).take length))

end BoundSql
