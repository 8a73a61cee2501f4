/-!
# Timestamps

The clock counts microseconds from the start of 1970 in UTC. A timestamp writes a clock value in the
proleptic Gregorian calendar with milliseconds. All numbers but the year have a fixed width, so that
from the year 1000 to the year 9999 later timestamps are greater as texts.
-/

namespace StoryAtlas

namespace Calendar

/-- The number of leap days in the first `n` years of the calendar. -/
def leapDays (n : Nat) : Nat :=
  n / 4 - n / 100 + n / 400

/-- The number of days in the first `n` years of the calendar. -/
def daysInYears (n : Nat) : Nat :=
  365 * n + leapDays n

/-- The number of whole years in the first `days` days of the calendar. The mean length of a year
gives a guess that is off by at most one. -/
def yearsIn (days : Nat) : Nat :=
  let guess := days * 400 / 146097
  if daysInYears (guess + 1) ≤ days then guess + 1
  else if daysInYears guess ≤ days then guess
  else guess - 1

/-- Every fourth year is a leap year, but of the full centuries only every fourth. -/
def isLeap (year : Nat) : Bool :=
  year % 4 == 0 && (year % 100 != 0 || year % 400 == 0)

/-- The lengths of the months. -/
def monthLengths (year : Nat) : List Nat :=
  [31, if isLeap year then 29 else 28, 31, 30, 31, 30, 31, 31, 30, 31, 30, 31]

/-- The month and the day in it, both counted from `month` and zero, of a day within the months of
the given lengths. -/
def monthAndDay (month : Nat) : List Nat → Nat → Nat × Nat
  | [], day => (month, day)
  | length :: rest, day =>
    if day < length then (month, day) else monthAndDay (month + 1) rest (day - length)

/-- A day of the calendar. -/
structure Date where
  year : Nat
  month : Nat
  day : Nat
  deriving DecidableEq, Repr

/-- The date of a day counted from the first day of the calendar. -/
def dateOf (days : Nat) : Date :=
  let years := yearsIn days
  let found := monthAndDay 1 (monthLengths (years + 1)) (days - daysInYears years)
  ⟨years + 1, found.1, found.2 + 1⟩

/-- The number of days before the start of 1970. -/
def epochDays : Nat := 719162

end Calendar

/-- The last `width` decimal digits of a number. -/
def fixedDigits : Nat → Nat → List Char
  | 0, _ => []
  | width + 1, n => (n / Nat.pow 10 width % 10).digitChar :: fixedDigits width n

/-- A year, without zeros in front. -/
def yearDigits (year : Nat) : List Char :=
  (fixedDigits 4 year).dropWhile (· == '0')

/-- A date and a time of day in milliseconds. -/
def timestampChars (date : Calendar.Date) (millis : Nat) : List Char :=
  yearDigits date.year ++ '-' :: fixedDigits 2 date.month ++ '-' :: fixedDigits 2 date.day ++
    'T' :: fixedDigits 2 (millis / 3600000) ++ ':' :: fixedDigits 2 (millis / 60000 % 60) ++
    ':' :: fixedDigits 2 (millis / 1000 % 60) ++ '.' :: fixedDigits 3 (millis % 1000) ++ ['Z']

/-- The timestamp of a clock value. -/
def timestamp (micros : Int) : String :=
  let millis := Int.fdiv micros 1000
  let days := (Int.fdiv millis 86400000 + Calendar.epochDays).toNat
  String.ofList (timestampChars (Calendar.dateOf days) (Int.fmod millis 86400000).toNat)

end StoryAtlas
