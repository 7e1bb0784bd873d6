import BoundSql.Calendar.Date

/-!
Times of day and moments, down to the nanosecond.
-/

namespace BoundSql.Calendar

open Text

/-- A time of day. Second 60 is a leap second. -/
structure TimeOfDay where
  hour : Nat
  minute : Nat
  second : Nat
  nanosecond : Nat
  deriving DecidableEq

/-- A time given in seconds and nanoseconds where a leap second is written as nanoseconds past the
whole of the second before it. -/
def TimeOfDay.ofFields (hour minute second nanosecond : Nat) : TimeOfDay :=
  if nanosecond < 1000000000 then ⟨hour, minute, second, nanosecond⟩
  else ⟨hour, minute, second + 1, nanosecond - 1000000000⟩

/-- Nothing, or a point with three, six or nine digits: the fewest that are exact. -/
def fractionText (nanosecond : Nat) : String :=
  if nanosecond = 0 then ""
  else if nanosecond % 1000000 = 0 then "." ++ padded 3 (nanosecond / 1000000)
  else if nanosecond % 1000 = 0 then "." ++ padded 6 (nanosecond / 1000)
  else "." ++ padded 9 nanosecond

/-- Hour, minute and second with a fraction. -/
def TimeOfDay.text (time : TimeOfDay) : String :=
  padded 2 time.hour ++ ":" ++ padded 2 time.minute ++ ":" ++ padded 2 time.second ++
    fractionText time.nanosecond

/-- A date with a time of day. -/
structure Moment where
  date : Date
  time : TimeOfDay
  deriving DecidableEq

/-- The date and the time with a mark between them. -/
def Moment.text (mark : String) (moment : Moment) : String :=
  moment.date.text ++ mark ++ moment.time.text

/-- The moment so many seconds and nanoseconds after the start of 1970-01-01. -/
def Moment.ofEpochSeconds (seconds : Int) (nanosecond : Nat) : Moment :=
  let ofDay := (seconds % 86400).toNat
  { date := .ofEpochDays (seconds / 86400)
    time := .ofFields (ofDay / 3600) (ofDay / 60 % 60) (ofDay % 60) nanosecond }

end BoundSql.Calendar
