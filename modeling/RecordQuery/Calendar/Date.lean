import RecordQuery.Number.Decimal

/-!
# Calendar dates

Dates of the proleptic Gregorian calendar with astronomical year numbers (year 0 is 1 BCE),
from January 1 of year -262143 to December 31 of year 262142. A date is valid when its month
is 1 to 12 and its day is within the month; February has 29 days in years divisible by 4,
except centuries not divisible by 400.

The text of a year has four digits when it is 0 to 9999; any other year is written with its
sign and at least four digits (`+12345`, `-0001`).
-/

namespace RecordQuery

/-- A date of the proleptic Gregorian calendar. -/
structure Date where
  year : Int
  month : Nat
  day : Nat
deriving DecidableEq

namespace Date

/-- The least year of a date. -/
def minYear : Int := -262143

/-- The greatest year of a date. -/
def maxYear : Int := 262142

/-- Leap years of the Gregorian calendar. -/
def isLeapYear (y : Int) : Bool :=
  y % 4 == 0 && (y % 100 != 0 || y % 400 == 0)

/-- The number of days of a month, `0` for a month that does not exist. -/
def daysInMonth (y : Int) (m : Nat) : Nat :=
  match m with
  | 1 | 3 | 5 | 7 | 8 | 10 | 12 => 31
  | 4 | 6 | 9 | 11 => 30
  | 2 => if isLeapYear y then 29 else 28
  | _ => 0

/-- The date is a real day within the supported years. -/
def isValid (d : Date) : Bool :=
  minYear ≤ d.year && d.year ≤ maxYear && 1 ≤ d.month && d.month ≤ 12 &&
    1 ≤ d.day && d.day ≤ daysInMonth d.year d.month

/-- The date with these parts, if it is valid. -/
def ofYmd? (y : Int) (m d : Nat) : Option Date :=
  let date : Date := ⟨y, m, d⟩
  if date.isValid then some date else none

/-- The first day of 1970. -/
def epoch : Date := ⟨1970, 1, 1⟩

/-- The next day, if it is within range. -/
def succ? (d : Date) : Option Date :=
  if d.day < daysInMonth d.year d.month then ofYmd? d.year d.month (d.day + 1)
  else if d.month < 12 then ofYmd? d.year (d.month + 1) 1
  else ofYmd? (d.year + 1) 1 1

/-- The previous day, if it is within range. -/
def pred? (d : Date) : Option Date :=
  if d.day > 1 then ofYmd? d.year d.month (d.day - 1)
  else if d.month > 1 then ofYmd? d.year (d.month - 1) (daysInMonth d.year (d.month - 1))
  else ofYmd? (d.year - 1) 12 31

/-- Dates compare by year, then month, then day. -/
def compare (a b : Date) : Ordering :=
  (Ord.compare a.year b.year).then ((Ord.compare a.month b.month).then (Ord.compare a.day b.day))

/-- The text of a year: four digits for 0 to 9999, otherwise signed with at least four. -/
def yearText (y : Int) : String :=
  if 0 ≤ y && y ≤ 9999 then Decimal.padText 4 y.natAbs
  else (if y < 0 then "-" else "+") ++ Decimal.padText 4 y.natAbs

/-- The text `YYYY-MM-DD`. -/
def toText (d : Date) : String :=
  yearText d.year ++ "-" ++ Decimal.padText 2 d.month ++ "-" ++ Decimal.padText 2 d.day

end Date

end RecordQuery
