/-!
A floating-point number taken apart: the integer `mantissa` times a power of two, or none at all.
-/

namespace BoundSql.Decimal

/-- What the bits of a floating-point number stand for. A finite one is
`mantissa * 2 ^ exponent`, negative or not; zero has a sign too. -/
inductive Binary where
  | finite (negative : Bool) (mantissa : Nat) (exponent : Int)
  | infinite (negative : Bool)
  | notANumber
  deriving DecidableEq

/-- Reads the 64 bits of the standard double format: the sign, eleven bits of exponent, and 52
bits of fraction, before which a one is understood unless the exponent bits are all zero. -/
def Binary.ofBits (bits : UInt64) : Binary :=
  let negative := bits.toNat / Nat.pow 2 63 == 1
  let exponent : Nat := bits.toNat / Nat.pow 2 52 % Nat.pow 2 11
  let fraction : Nat := bits.toNat % Nat.pow 2 52
  if exponent = 2047 then if fraction = 0 then .infinite negative else .notANumber
  else if exponent = 0 then .finite negative fraction (-1074)
  else .finite negative (Nat.pow 2 52 + fraction) ((exponent : Int) - 1075)

def Binary.ofFloat (x : Float) : Binary :=
  .ofBits x.toBits

end BoundSql.Decimal
