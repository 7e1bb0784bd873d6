import BoundSql.Decimal.Binary
import BoundSql.Decimal.Shortest

/-!
How the digits of a floating-point number are laid out as text.
-/

namespace BoundSql.Decimal

/-- The choices that a number format makes. The place of the point is `d` when the number is
`0.DIGITS * 10 ^ d`. -/
structure Layout where
  /-- The places of the point that are written without an exponent. -/
  positional : Int → Bool
  /-- Whether a whole number written without an exponent ends in `.0`. -/
  pointZero : Bool
  /-- Which of two equally short and equally near decimals is written. -/
  tie : Tie

/-- Digits with the point at a place: zeros fill the gap on either side. -/
def Layout.positionalText (layout : Layout) (digits : List Char) (place : Int) : List Char :=
  if place ≤ 0 then '0' :: '.' :: (List.replicate (-place).toNat '0' ++ digits)
  else if place.toNat < digits.length then
    digits.take place.toNat ++ '.' :: digits.drop place.toNat
  else
    digits ++ List.replicate (place.toNat - digits.length) '0' ++
      (if layout.pointZero then ['.', '0'] else [])

/-- One digit before the point, the others after it, and the exponent with its sign. -/
def exponentText (digits : List Char) (place : Int) : List Char :=
  let exponent := place - 1
  digits.take 1 ++ (if digits.length ≤ 1 then [] else '.' :: digits.drop 1) ++
    'e' :: (if exponent < 0 then '-' else '+') :: Nat.toDigits 10 exponent.natAbs

/-- The text of `mantissa * 2 ^ exponent`, by its shortest decimal. -/
def Layout.magnitudeText (layout : Layout) (mantissa : Nat) (exponent : Int) : List Char :=
  let decimal := shortest layout.tie mantissa exponent
  let digits := Nat.toDigits 10 decimal.digits
  let place := digits.length + decimal.exponent
  if mantissa = 0 then layout.positionalText ['0'] 1
  else if layout.positional place then layout.positionalText digits place
  else exponentText digits place

/-- The text of a number. What is no number and what is infinite have words of their own. -/
def Layout.text (layout : Layout) : Binary → String
  | .notANumber => "NaN"
  | .infinite negative => if negative then "-inf" else "inf"
  | .finite negative mantissa exponent =>
      (if negative then "-" else "") ++ String.ofList (layout.magnitudeText mantissa exponent)

/-- Plain decimals: never an exponent, no point in whole numbers, and ties go up. -/
def plain : Layout :=
  ⟨fun _ => true, false, .up⟩

/-- Scientific decimals: an exponent from `1e+16` up and from `1e-6` down, a point in whole numbers,
and ties go to the even neighbour. -/
def scientific : Layout :=
  ⟨fun place => -4 ≤ place && place ≤ 16, true, .even⟩

end BoundSql.Decimal
