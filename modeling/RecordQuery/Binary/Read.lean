import RecordQuery.Binary.Binary64
import RecordQuery.Number.Decimal

/-!
# Reading decimal floating-point text

The grammar of a float literal: an optional sign, then either a decimal number or one of
the words `nan`, `inf`, `infinity` in any mix of case. A decimal number has digits, an
optional point with more digits (at least one digit on one side), and an optional exponent:
`e` or `E`, an optional sign and at least one digit. The whole text must match; nothing
else, blanks included, may stand around it.

A decimal number is rounded once, to the nearest number of the target format. Values whose
magnitude is certainly beyond `10^400` or below `10^-400` are settled as infinite or zero
without computing the power of ten, which keeps huge exponents cheap.
-/

namespace RecordQuery

/-- A float literal as read from text, before rounding. -/
inductive DecimalLiteral where
  /-- `(-1)^neg · mantissa · 10^exp10`. -/
  | number (neg : Bool) (mantissa : Nat) (exp10 : Int)
  /-- An infinity. -/
  | infinity (neg : Bool)
  /-- A NaN, with the sign written before it. -/
  | nan (neg : Bool)

namespace DecimalLiteral

/-- Reads the exponent part after `e`: an optional sign and at least one digit, then the end
of the text. -/
def readExponent (cs : List Char) : Option Int :=
  let (neg, ds) : Bool × List Char :=
    match cs with
    | '+' :: r => (false, r)
    | '-' :: r => (true, r)
    | r => (false, r)
  if ds.isEmpty || !ds.all Decimal.isDigit then none
  else
    let n : Int := Decimal.ofDigits ds
    some (if neg then -n else n)

/-- Reads an unsigned decimal number: digits, an optional point and digits, an optional
exponent, and nothing after. -/
def readUnsigned (cs : List Char) : Option (Nat × Int) :=
  let (intDs, r1) := Decimal.spanDigits cs
  let (fracDs, r2) : List Char × List Char :=
    match r1 with
    | '.' :: t => Decimal.spanDigits t
    | _ => ([], r1)
  if intDs.length + fracDs.length = 0 then none
  else
    let mant := Decimal.ofDigits (intDs ++ fracDs)
    let shift : Int := fracDs.length
    match r2 with
    | [] => some (mant, -shift)
    | c :: t =>
      if c = 'e' || c = 'E' then (readExponent t).map fun e => (mant, e - shift)
      else none

/-- The ASCII lower case of a character. -/
def lowerAscii (c : Char) : Char :=
  if 'A' ≤ c && c ≤ 'Z' then Char.ofNat (c.toNat + 32) else c

/-- Reads a whole float literal. -/
def read? (cs : List Char) : Option DecimalLiteral :=
  let (neg, rest) : Bool × List Char :=
    match cs with
    | '+' :: r => (false, r)
    | '-' :: r => (true, r)
    | r => (false, r)
  if rest.isEmpty then none
  else
    match readUnsigned rest with
    | some (m, e) => some (.number neg m e)
    | none =>
      let word := rest.map lowerAscii
      if word = ['n', 'a', 'n'] then some (.nan neg)
      else if word = ['i', 'n', 'f'] || word = "infinity".toList then some (.infinity neg)
      else none

/-- The nearest number of a format to `mantissa · 10^exp10`, as a bit pattern. -/
def encodeNumber (f : FloatFormat) (neg : Bool) (mant : Nat) (e : Int) : Nat :=
  if mant = 0 then f.encodeFinite neg 0 f.minQ
  else
    let mag : Int := (Decimal.digitCount mant : Int) + e
    if mag > 400 then f.encodeInfinite neg
    else if mag < -400 then f.encodeFinite neg 0 f.minQ
    else f.encodeRat neg (mant * Nat.pow 10 e.toNat) (Nat.pow 10 (-e).toNat)

/-- The literal rounded to a double. -/
def toBinary64 : DecimalLiteral → Binary64
  | .number neg m e => Binary64.ofBitsNat (encodeNumber FloatFormat.binary64 neg m e)
  | .infinity neg => Binary64.infinity neg
  | .nan neg => if neg then Binary64.nan.neg else Binary64.nan

/-- The literal rounded to a single. -/
def toBinary32 : DecimalLiteral → Binary32
  | .number neg m e => Binary32.ofBitsNat (encodeNumber FloatFormat.binary32 neg m e)
  | .infinity neg => Binary32.infinity neg
  | .nan neg => Binary32.nan neg

end DecimalLiteral

/-- Reads a double from a whole float literal. -/
def Binary64.read? (cs : List Char) : Option Binary64 :=
  (DecimalLiteral.read? cs).map DecimalLiteral.toBinary64

/-- Reads a single from a whole float literal. -/
def Binary32.read? (cs : List Char) : Option Binary32 :=
  (DecimalLiteral.read? cs).map DecimalLiteral.toBinary32

end RecordQuery
