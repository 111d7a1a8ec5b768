/-!
Instants in coordinated universal time, and the text written for them: year, month and day of the
Gregorian calendar extended to all years, the time of day, and milliseconds cut off, not rounded.
-/
namespace Storefront

/-- Seconds since the beginning of 1970 and nanoseconds within the second. A leap second is written
as a second of a thousand million nanoseconds or more. -/
structure Instant where
  seconds : Int
  nanoseconds : Nat
deriving DecidableEq, Repr

namespace Calendar

/-- The days from the beginning of the year 0 to the beginning of a year. -/
def daysBeforeYear (year : Int) : Int :=
  365 * year + (year - 1) / 4 - (year - 1) / 100 + (year - 1) / 400 + 1

/-- The days from the beginning of the year 0 to the beginning of 1970. -/
def epoch : Int := 719528

/-- The year of a day counted from the beginning of the year 0. Four hundred years have 146097 days,
and the year reckoned from their mean length is off by one at most. -/
def yearOf (day : Int) : Int :=
  let guess := 400 * day / 146097
  if day < daysBeforeYear guess then guess - 1
  else if daysBeforeYear (guess + 1) ≤ day then guess + 1
  else guess

def isLeapYear (year : Int) : Bool :=
  daysBeforeYear (year + 1) - daysBeforeYear year = 366

def monthLengths (leap : Bool) : List Nat :=
  [31, if leap then 29 else 28, 31, 30, 31, 30, 31, 31, 30, 31, 30, 31]

/-- The month and the day of the month, where `month` is that of the first length and `day` counts
the days before the one sought from there. -/
def monthAndDay (month day : Nat) : List Nat → Nat × Nat
  | [] => (month, day + 1)
  | length :: lengths =>
    if day < length then (month, day + 1) else monthAndDay (month + 1) (day - length) lengths

end Calendar

namespace Timestamp

/-- A number with zeros in front, up to a width. -/
def padded (width n : Nat) : String :=
  let digits := toString n
  String.ofList (List.replicate (width - digits.length) '0') ++ digits

/-- Four digits; years outside of four digits have a sign. -/
def renderYear (year : Int) : String :=
  if year < 0 then "-" ++ padded 4 year.natAbs
  else if year ≤ 9999 then padded 4 year.natAbs
  else "+" ++ padded 4 year.natAbs

end Timestamp

/-- The text of an instant, as in `2024-02-01T12:00:00.000Z`. -/
def Instant.render (now : Instant) : String :=
  let day := now.seconds / 86400 + Calendar.epoch
  let time := (now.seconds % 86400).toNat
  let year := Calendar.yearOf day
  let (month, dayOfMonth) := Calendar.monthAndDay 1 (day - Calendar.daysBeforeYear year).toNat
    (Calendar.monthLengths (Calendar.isLeapYear year))
  let leapSecond := now.nanoseconds / 1000000000
  let milliseconds := now.nanoseconds % 1000000000 / 1000000
  Timestamp.renderYear year ++ "-" ++ Timestamp.padded 2 month ++ "-" ++
    Timestamp.padded 2 dayOfMonth ++ "T" ++ Timestamp.padded 2 (time / 3600) ++ ":" ++
    Timestamp.padded 2 (time / 60 % 60) ++ ":" ++ Timestamp.padded 2 (time % 60 + leapSecond) ++
    "." ++ Timestamp.padded 3 milliseconds ++ "Z"

end Storefront
