/-!
The shortest decimal that reads back as a given floating-point number. The numbers that round to it
form an interval around it; the first decimal grid with a point in that interval, coarse grids
first, gives the fewest digits, and of two such points the nearer is taken. All of it is computed
in exact integers.
-/

namespace BoundSql.Decimal

/-- Which of two equally near neighbours is taken: the greater one, or the even one. -/
inductive Tie where
  | up : Tie
  | even : Tie
  deriving DecidableEq

/-- The decimal number `digits * 10 ^ exponent`. -/
structure Scaled where
  digits : Nat
  exponent : Int
  deriving DecidableEq

/-- A positive number with the interval around it that rounds to it: all three over the same
denominator, and whether the ends belong to the interval. -/
structure Interval where
  low : Nat
  value : Nat
  high : Nat
  denominator : Nat
  closed : Bool

/-- The interval that rounds to `mantissa * 2 ^ exponent`: half the way to the next number above and
half the way to the one below, which is nearer if the mantissa is the least of its exponent. The
ends round to the even mantissa. -/
def Interval.around (mantissa : Nat) (exponent : Int) : Interval :=
  let below := if mantissa = Nat.pow 2 52 ∧ -1074 < exponent then 1 else 2
  let scale := Nat.pow 2 (exponent - 2).toNat
  { low := (4 * mantissa - below) * scale
    value := 4 * mantissa * scale
    high := (4 * mantissa + 2) * scale
    denominator := Nat.pow 2 (2 - exponent).toNat
    closed := mantissa % 2 == 0 }

/-- The interval counted in units of `10 ^ exponent`. -/
def Interval.inUnits (x : Interval) (exponent : Int) : Interval :=
  let scale := Nat.pow 10 (-exponent).toNat
  { x with
    low := x.low * scale
    value := x.value * scale
    high := x.high * scale
    denominator := x.denominator * Nat.pow 10 exponent.toNat }

def Interval.contains (x : Interval) (n : Nat) : Bool :=
  let point := n * x.denominator
  if x.closed then x.low ≤ point && point ≤ x.high else x.low < point && point < x.high

/-- The nearest integer in the interval, if one of the two next to the value is in it. -/
def Interval.nearest? (x : Interval) (tie : Tie) : Option Nat :=
  let below := x.value / x.denominator
  let rest := x.value % x.denominator
  match x.contains below, x.contains (below + 1) with
  | false, false => none
  | true, false => some below
  | false, true => some (below + 1)
  | true, true =>
      if 2 * rest < x.denominator then some below
      else if x.denominator < 2 * rest then some (below + 1)
      else
        match tie with
        | .up => some (below + 1)
        | .even => some (if below % 2 = 0 then below else below + 1)

/-- The number of decimal digits before the point, zero or negative for a number below one: the
value lies below that power of ten. -/
def Interval.magnitude (x : Interval) : Int :=
  if x.denominator ≤ x.value then (Nat.toDigits 10 (x.value / x.denominator)).length
  else 1 - (Nat.toDigits 10 (x.denominator / x.value)).length

/-- The first hit among so many grids, each ten times finer than the one before. -/
def Interval.search (x : Interval) (tie : Tie) : (grids : Nat) → (exponent : Int) → Scaled
  | 0, exponent => ⟨(x.inUnits exponent).value / (x.inUnits exponent).denominator, exponent⟩
  | grids + 1, exponent =>
      match (x.inUnits exponent).nearest? tie with
      | some n => ⟨n, exponent⟩
      | none => x.search tie grids (exponent - 1)

/-- The shortest decimal that reads back as `mantissa * 2 ^ exponent`. Seventeen digits always
suffice. -/
def shortest (tie : Tie) (mantissa : Nat) (exponent : Int) : Scaled :=
  if mantissa = 0 then ⟨0, 0⟩
  else
    let x := Interval.around mantissa exponent
    x.search tie 18 x.magnitude

end BoundSql.Decimal
