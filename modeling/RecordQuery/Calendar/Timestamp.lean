import RecordQuery.Calendar.Date

/-!
# Timestamps

A timestamp is a date and a time of day without time zone, to the nanosecond. A leap second
is second `60` of its minute, so a minute holds up to 61 seconds; timestamps compare by
date, then hour, minute, second and nanosecond, which puts a leap second after second 59 of
its minute and before the next minute.

An instant in UTC (`UtcTimestamp`) is the timestamp of its date and time of day in UTC.

The text is `YYYY-MM-DDTHH:MM:SS` followed by a fraction: the natural text drops a zero
fraction and otherwise writes 3, 6 or 9 digits, the fewest that are exact; the full text
always writes 9.
-/

namespace RecordQuery

/-- A date and a time of day, to the nanosecond. -/
structure Timestamp where
  date : Date
  hour : Nat
  minute : Nat
  /-- `60` for a leap second. -/
  second : Nat
  nano : Nat
deriving DecidableEq

namespace Timestamp

/-- Midnight at the start of a date. -/
def atMidnight (d : Date) : Timestamp := ⟨d, 0, 0, 0, 0⟩

/-- Midnight at the start of 1970. -/
def epoch : Timestamp := atMidnight Date.epoch

/-- The date part alone, at midnight. -/
def dateOnly (t : Timestamp) : Timestamp := atMidnight t.date

/-- Timestamps compare by date, then by time of day. -/
def compare (a b : Timestamp) : Ordering :=
  (a.date.compare b.date).then <|
    (Ord.compare a.hour b.hour).then <|
      (Ord.compare a.minute b.minute).then <|
        (Ord.compare a.second b.second).then (Ord.compare a.nano b.nano)

/-- The text up to the seconds, `YYYY-MM-DDTHH:MM:SS`. -/
def clockText (t : Timestamp) : String :=
  t.date.toText ++ "T" ++ Decimal.padText 2 t.hour ++ ":" ++ Decimal.padText 2 t.minute ++
    ":" ++ Decimal.padText 2 t.second

/-- The fraction of the natural text: nothing for zero, else 3, 6 or 9 digits. -/
def autoFraction (nano : Nat) : String :=
  if nano = 0 then ""
  else if nano % 1000000 = 0 then "." ++ Decimal.padText 3 (nano / 1000000)
  else if nano % 1000 = 0 then "." ++ Decimal.padText 6 (nano / 1000)
  else "." ++ Decimal.padText 9 nano

/-- The natural text, with the shortest of no, 3, 6 or 9 fraction digits. -/
def toText (t : Timestamp) : String := t.clockText ++ autoFraction t.nano

/-- The full text, with nine fraction digits. -/
def toFullText (t : Timestamp) : String := t.clockText ++ "." ++ Decimal.padText 9 t.nano

end Timestamp

/-- An instant in UTC, held as its date and time of day in UTC. -/
structure UtcTimestamp where
  /-- The date and time of day of the instant in UTC. -/
  utc : Timestamp
deriving DecidableEq

end RecordQuery
