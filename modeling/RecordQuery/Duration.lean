import RecordQuery.Number.Decimal
import RecordQuery.Text.Chars

/-!
# Durations

A duration is a signed count of nanoseconds whose magnitude is at most `2^63 - 1`
milliseconds. Its whole seconds and its sub-second part both truncate toward zero, so they
carry the same sign.

Its text is `[-][D.]HH:MM:SS[.F]`: a minus for a negative duration, the whole days and a
point when there is at least one day, hours, minutes and seconds of two digits each, and the
nanoseconds as a nine-digit fraction with trailing zeros removed, only when they are not
zero.

Reading accepts `[-][D.]H:M[:S[.F]]` after trimming blanks, where `D` has any number of
ASCII digits, `H`, `M`, `S` one or two, and `F` one to nine; hours are below 24, minutes and
seconds below 60, and the value must be within range.
-/

namespace RecordQuery

/-- The largest magnitude of a duration, in nanoseconds: `2^63 - 1` milliseconds. -/
def Duration.maxNanos : Nat := 9223372036854775807 * 1000000

/-- A signed span of time in nanoseconds, within `±Duration.maxNanos`. -/
structure Duration where
  /-- The signed number of nanoseconds. -/
  nanos : Int
  bounded : nanos.natAbs ≤ Duration.maxNanos
deriving DecidableEq

namespace Duration

/-- The zero duration. -/
def zero : Duration := ⟨0, by decide⟩

/-- The duration of `n` nanoseconds, if within range. -/
def ofNanos? (n : Int) : Option Duration :=
  if h : n.natAbs ≤ maxNanos then some ⟨n, h⟩ else none

/-- The whole seconds, truncated toward zero. -/
def seconds (d : Duration) : Int := d.nanos.tdiv 1000000000

/-- The nanoseconds beyond the whole seconds, with the sign of the duration. -/
def subsecNanos (d : Duration) : Int := d.nanos.tmod 1000000000

/-- Durations compare by their length with sign. -/
def compare (d e : Duration) : Ordering := Ord.compare d.nanos e.nanos

/-- The negated duration; the range is symmetric. -/
def neg (d : Duration) : Duration := ⟨-d.nanos, by rw [Int.natAbs_neg]; exact d.bounded⟩

/-- The text `[-][D.]HH:MM:SS[.F]`. -/
def toText (d : Duration) : String :=
  let total := d.nanos.natAbs
  let secs := total / 1000000000
  let frac := total % 1000000000
  let days := secs / 86400
  let sign := if d.nanos < 0 then "-" else ""
  let dayPart := if days > 0 then Decimal.natText days ++ "." else ""
  let clock := Decimal.padText 2 (secs % 86400 / 3600) ++ ":" ++
    Decimal.padText 2 (secs % 3600 / 60) ++ ":" ++ Decimal.padText 2 (secs % 60)
  let fracPart :=
    if frac = 0 then ""
    else "." ++ String.ofList ((Decimal.padDigits 9 frac).reverse.dropWhile (· = '0')).reverse
  sign ++ dayPart ++ clock ++ fracPart

/-- Reads one or two ASCII digits at the front; gives their value and the rest. -/
def readClockField (cs : List Char) : Option (Nat × List Char) :=
  let (ds, rest) := Decimal.spanDigits cs
  if ds.length = 1 || ds.length = 2 then some (Decimal.ofDigits ds, rest) else none

/-- Reads the seconds part after `H:M`: nothing, or `:S` with an optional `.F`. Gives the
seconds and the fraction in nanoseconds. -/
def readSecondsPart (cs : List Char) : Option (Nat × Nat) :=
  match cs with
  | [] => some (0, 0)
  | ':' :: r =>
    match readClockField r with
    | some (s, []) => some (s, 0)
    | some (s, '.' :: f) =>
      if f.length ≥ 1 && f.length ≤ 9 && f.all Decimal.isDigit then
        some (s, Decimal.ofDigits f * Nat.pow 10 (9 - f.length))
      else none
    | _ => none
  | _ => none

/-- Reads a duration from its text, see the module comment. -/
def read? (cs : List Char) : Option Duration :=
  let cs := Text.trimChars cs
  let (neg, body) : Bool × List Char :=
    match cs with
    | '-' :: r => (true, r)
    | r => (false, r)
  let (lead, r1) := Decimal.spanDigits body
  let (days, hourText) : Nat × Option (List Char) :=
    match r1 with
    | '.' :: t => if lead.isEmpty then (0, none) else (Decimal.ofDigits lead, some t)
    | _ => (0, some body)
  match hourText with
  | none => none
  | some ht =>
    match readClockField ht with
    | some (h, ':' :: r2) =>
      match readClockField r2 with
      | some (m, r3) =>
        match readSecondsPart r3 with
        | some (s, f) =>
          if h < 24 && m < 60 && s < 60 then
            let total : Int := ((days * 86400 + h * 3600 + m * 60 + s) * 1000000000 + f : Nat)
            ofNanos? (if neg then -total else total)
          else none
        | none => none
      | none => none
    | _ => none

end Duration

end RecordQuery
