import RecordQuery.Calendar.Timestamp
import RecordQuery.Text.Chars

/-!
# Reading dates and timestamps

Two kinds of reader are defined.

A *pattern* is a list of items: year, month, day, hour, minute, second, an optional
fraction, a literal character, or a run of blanks. Each numeric item first skips blanks,
then reads at most two digits (four for a year) and at least one; a year may instead carry a
sign, and then any number of digits. A fraction is a point and one or more digits, of which
the first nine count; it may be absent. The whole text must be consumed, and the fields
must form a valid date and time (second `60` is a leap second).

The *RFC 3339* reader takes `YYYY-MM-DD`, a `T`, `t` or space, `HH:MM:SS`, an optional
fraction, and a zone: `Z`, `z`, or a sign (`+`, `-` or U+2212) with `HH:MM` of at most
`23:59`. All fields have exactly their width. The result is the same instant in UTC.

`Timestamp.read?` trims blanks and tries RFC 3339, then the patterns
`YYYY-MM-DDTHH:MM:SS[.F]`, `YYYY-MM-DD HH:MM:SS[.F]`, `YYYY-MM-DDTHH:MM`,
`YYYY-MM-DD HH:MM`, and last a bare date `YYYY-MM-DD` at midnight.
-/

namespace RecordQuery

namespace Calendar

/-- The fields read so far. -/
structure Fields where
  year : Option Int := none
  month : Option Nat := none
  day : Option Nat := none
  hour : Option Nat := none
  minute : Option Nat := none
  second : Option Nat := none
  nano : Option Nat := none

/-- One item of a pattern. -/
inductive PatternItem where
  | year
  | month
  | day
  | hour
  | minute
  | second
  /-- An optional point followed by digits. -/
  | fraction
  /-- Exactly this character. -/
  | literal (c : Char)
  /-- Any run of blanks, possibly empty. -/
  | blank

/-- The largest value a numeric field may reach while it is read. -/
def fieldLimit : Nat := Nat.pow 2 63 - 1

/-- Reads at least `lo` and at most `hi` ASCII digits at the front. -/
def scanNumber (cs : List Char) (lo hi : Nat) : Option (Nat × List Char) :=
  let ds := (cs.takeWhile Decimal.isDigit).take hi
  if ds.length < lo then none
  else
    let v := Decimal.ofDigits ds
    if v > fieldLimit then none else some (v, cs.drop ds.length)

/-- Reads a fraction after its point: one to nine digits count, further digits are skipped.
Gives nanoseconds. -/
def scanFraction (cs : List Char) : Option (Nat × List Char) :=
  match scanNumber cs 1 9 with
  | some (v, rest) =>
    let used := cs.length - rest.length
    some (v * Nat.pow 10 (9 - used), rest.dropWhile Decimal.isDigit)
  | none => none

/-- Reads a number for a field whose value must lie in `[lo, hi]`. -/
def scanField (cs : List Char) (width lo hi : Nat) : Option (Nat × List Char) :=
  match scanNumber cs 1 width with
  | some (v, rest) => if lo ≤ v && v ≤ hi then some (v, rest) else none
  | none => none

/-- Years must fit in a signed 32-bit number while they are read. -/
def yearFits (y : Int) : Bool := -Int.pow 2 31 ≤ y && y < Int.pow 2 31

/-- Reads the year item, after blanks: a signed number of any length, or up to four
digits. -/
def scanYear (cs : List Char) : Option (Int × List Char) :=
  let r : Option (Int × List Char) :=
    match cs with
    | '-' :: t => (scanNumber t 1 t.length).map fun (v, rest) => (-(v : Int), rest)
    | '+' :: t => (scanNumber t 1 t.length).map fun (v, rest) => ((v : Int), rest)
    | _ => (scanNumber cs 1 4).map fun (v, rest) => ((v : Int), rest)
  match r with
  | some (y, rest) => if yearFits y then some (y, rest) else none
  | none => none

/-- Applies one item of a pattern. -/
def step (f : Fields) (cs : List Char) : PatternItem → Option (Fields × List Char)
  | .year => (scanYear (Text.trimStart cs)).map fun (v, r) => ({ f with year := some v }, r)
  | .month => (scanField (Text.trimStart cs) 2 1 12).map fun (v, r) => ({ f with month := some v }, r)
  | .day => (scanField (Text.trimStart cs) 2 1 31).map fun (v, r) => ({ f with day := some v }, r)
  | .hour => (scanField (Text.trimStart cs) 2 0 23).map fun (v, r) => ({ f with hour := some v }, r)
  | .minute =>
    (scanField (Text.trimStart cs) 2 0 59).map fun (v, r) => ({ f with minute := some v }, r)
  | .second =>
    (scanField (Text.trimStart cs) 2 0 60).map fun (v, r) => ({ f with second := some v }, r)
  | .fraction =>
    match cs with
    | '.' :: t => (scanFraction t).map fun (v, r) => ({ f with nano := some v }, r)
    | _ => some (f, cs)
  | .literal c =>
    match cs with
    | d :: t => if d = c then some (f, t) else none
    | [] => none
  | .blank => some (f, Text.trimStart cs)

/-- Applies a whole pattern; the text must be used up. -/
def readFields (items : List PatternItem) (cs : List Char) : Option Fields :=
  let r := items.foldlM (fun (acc : Fields × List Char) item => step acc.1 acc.2 item) ({}, cs)
  match r with
  | some (f, []) => some f
  | _ => none

/-- The date of the fields. -/
def Fields.date? (f : Fields) : Option Date :=
  match f.year, f.month, f.day with
  | some y, some m, some d => Date.ofYmd? y m d
  | _, _, _ => none

/-- The timestamp of the fields: hour and minute are needed, the second and the fraction
default to zero. -/
def Fields.timestamp? (f : Fields) : Option Timestamp :=
  match f.date?, f.hour, f.minute with
  | some d, some h, some m => some ⟨d, h, m, f.second.getD 0, f.nano.getD 0⟩
  | _, _, _ => none

/-- `YYYY-MM-DDTHH:MM:SS[.F]`. -/
def isoPattern : List PatternItem :=
  [.year, .literal '-', .month, .literal '-', .day, .literal 'T', .hour, .literal ':', .minute,
    .literal ':', .second, .fraction]

/-- `YYYY-MM-DD HH:MM:SS[.F]`. -/
def spacedPattern : List PatternItem :=
  [.year, .literal '-', .month, .literal '-', .day, .blank, .hour, .literal ':', .minute,
    .literal ':', .second, .fraction]

/-- `YYYY-MM-DDTHH:MM`. -/
def isoMinutePattern : List PatternItem :=
  [.year, .literal '-', .month, .literal '-', .day, .literal 'T', .hour, .literal ':', .minute]

/-- `YYYY-MM-DD HH:MM`. -/
def spacedMinutePattern : List PatternItem :=
  [.year, .literal '-', .month, .literal '-', .day, .blank, .hour, .literal ':', .minute]

/-- `YYYY-MM-DD`. -/
def datePattern : List PatternItem :=
  [.year, .literal '-', .month, .literal '-', .day]

/-- Reads exactly `n` ASCII digits at the front. -/
def scanExact (cs : List Char) (n : Nat) : Option (Nat × List Char) :=
  scanNumber cs n n

/-- Reads an exact-width field whose value must lie in `[lo, hi]`. -/
def scanExactField (cs : List Char) (n lo hi : Nat) : Option (Nat × List Char) :=
  match scanExact cs n with
  | some (v, rest) => if lo ≤ v && v ≤ hi then some (v, rest) else none
  | none => none

/-- Expects one character at the front. -/
def expect (c : Char) : List Char → Option (List Char)
  | d :: t => if d = c then some t else none
  | [] => none

/-- Reads an RFC 3339 zone, giving its offset east of UTC in seconds. -/
def scanZone (cs : List Char) : Option (Int × List Char) :=
  let signed (neg : Bool) (t : List Char) : Option (Int × List Char) :=
    match t with
    | h1 :: h2 :: ':' :: m1 :: m2 :: rest =>
      if Decimal.isDigit h1 && Decimal.isDigit h2 && '0' ≤ m1 && m1 ≤ '5' &&
          Decimal.isDigit m2 then
        let secs : Nat := (Decimal.ofDigits [h1, h2]) * 3600 + Decimal.ofDigits [m1, m2] * 60
        if secs ≤ (23 * 60 + 59) * 60 then some (if neg then -(secs : Int) else secs, rest)
        else none
      else none
    | _ => none
  match cs with
  | 'Z' :: r => some (0, r)
  | 'z' :: r => some (0, r)
  | '+' :: r => signed false r
  | '-' :: r => signed true r
  | '−' :: r => signed true r
  | _ => none

/-- The same wall-clock reading moved back by `offset` seconds, carrying into the date. A
leap second stays a leap second. -/
def shiftBack (t : Timestamp) (offset : Int) : Option Timestamp :=
  let leap := t.second == 60
  let sod : Int := t.hour * 3600 + t.minute * 60 + (if leap then 59 else t.second)
  let moved := sod - offset
  let carry := moved / 86400
  let sod' := (moved % 86400).toNat
  let date? : Option Date :=
    if carry < 0 then t.date.pred? else if carry > 0 then t.date.succ? else some t.date
  date?.map fun d =>
    ⟨d, sod' / 3600, sod' % 3600 / 60, if leap then 60 else sod' % 60, t.nano⟩

/-- Reads an RFC 3339 date and time, giving the instant in UTC. -/
def readRfc3339? (cs : List Char) : Option Timestamp := do
  let (y, r) ← scanExact cs 4
  let r ← expect '-' r
  let (mo, r) ← scanExactField r 2 1 12
  let r ← expect '-' r
  let (d, r) ← scanExactField r 2 1 31
  let r ← match r with
    | c :: t => if c = 'T' || c = 't' || c = ' ' then some t else none
    | [] => none
  let (h, r) ← scanExactField r 2 0 23
  let r ← expect ':' r
  let (mi, r) ← scanExactField r 2 0 59
  let r ← expect ':' r
  let (s, r) ← scanExactField r 2 0 60
  let (nano, r) ← match r with
    | '.' :: t => scanFraction t
    | _ => some (0, r)
  let (offset, r) ← scanZone r
  if !r.isEmpty then none
  let date ← Date.ofYmd? y mo d
  shiftBack ⟨date, h, mi, s, nano⟩ offset

end Calendar

namespace Date

/-- Reads a date `YYYY-MM-DD` with the pattern rules. -/
def read? (cs : List Char) : Option Date :=
  (Calendar.readFields Calendar.datePattern cs).bind Calendar.Fields.date?

end Date

namespace Timestamp

/-- Reads `YYYY-MM-DDTHH:MM:SS[.F]` with the pattern rules. -/
def readIso? (cs : List Char) : Option Timestamp :=
  (Calendar.readFields Calendar.isoPattern cs).bind Calendar.Fields.timestamp?

/-- Reads a timestamp, see the module comment. -/
def read? (cs : List Char) : Option Timestamp :=
  let cs := Text.trimChars cs
  let viaPattern (p : List Calendar.PatternItem) : Option Timestamp :=
    (Calendar.readFields p cs).bind Calendar.Fields.timestamp?
  (Calendar.readRfc3339? cs).orElse fun _ =>
    (viaPattern Calendar.isoPattern).orElse fun _ =>
      (viaPattern Calendar.spacedPattern).orElse fun _ =>
        (viaPattern Calendar.isoMinutePattern).orElse fun _ =>
          (viaPattern Calendar.spacedMinutePattern).orElse fun _ =>
            (Date.read? cs).map atMidnight

end Timestamp

end RecordQuery
