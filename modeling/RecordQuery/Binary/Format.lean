/-!
# Binary floating-point formats

An IEEE 754 binary interchange format is fixed by its precision `p` (significand bits, the
hidden bit included) and its exponent width. A finite number of the format is
`(-1)^s · m · 2^q` with `m < 2^p` and `minQ ≤ q ≤ maxQ`; it is normal when `m ≥ 2^(p-1)`.

The main operation here is `FloatFormat.roundRat`: the exact rational `num / den` rounded to
the nearest number of the format, a tie going to the even significand, as IEEE 754
prescribes for conversions. It works in exact natural-number arithmetic, so every reader and
every conversion of this library that produces a float rounds once and correctly.
-/

namespace RecordQuery

/-- An IEEE 754 binary format: significand precision and exponent width, in bits. -/
structure FloatFormat where
  /-- Significand bits, the hidden bit included. -/
  precision : Nat
  /-- Exponent field bits. -/
  expBits : Nat

/-- What a bit pattern of a binary format denotes. A finite value is `(-1)^neg · m · 2^q`;
zero has `m = 0`. -/
inductive FloatView where
  /-- Not a number. -/
  | nan
  /-- An infinity of the given sign. -/
  | infinite (neg : Bool)
  /-- A finite value, zero included. -/
  | finite (neg : Bool) (m : Nat) (q : Int)

namespace FloatFormat

/-- IEEE 754 binary64. -/
def binary64 : FloatFormat := ⟨53, 11⟩

/-- IEEE 754 binary32. -/
def binary32 : FloatFormat := ⟨24, 8⟩

/-- The exponent bias. -/
def bias (f : FloatFormat) : Nat := Nat.pow 2 (f.expBits - 1) - 1

/-- The exponent of the least subnormal number `2^minQ`. -/
def minQ (f : FloatFormat) : Int := 1 - (f.bias : Int) - ((f.precision : Int) - 1)

/-- The greatest exponent `q` of a finite `m · 2^q` with `m < 2^p`. -/
def maxQ (f : FloatFormat) : Int := (f.bias : Int) - ((f.precision : Int) - 1)

/-- The all-ones exponent field, which marks infinities and NaNs. -/
def topField (f : FloatFormat) : Nat := Nat.pow 2 f.expBits - 1

/-- The width of a bit pattern. -/
def width (f : FloatFormat) : Nat := f.expBits + f.precision

/-- Whether `num · 2^max(-l,0) ≥ den · 2^max(l,0)`, that is `num / den ≥ 2^l`. -/
def atLeastPow2 (num den : Nat) (l : Int) : Bool :=
  num * Nat.pow 2 (-l).toNat ≥ den * Nat.pow 2 l.toNat

/-- `⌊log₂ (num / den)⌋` for positive `num` and `den`. -/
def floorLog2 (num den : Nat) : Int :=
  let l : Int := (num.log2 : Int) - den.log2
  if atLeastPow2 num den l then l else l - 1

/-- Rounds the non-negative rational `num / den` (with `den > 0`) to the nearest `m · 2^q` of
the format, a tie going to even `m`. Gives `none` when the result exceeds the greatest finite
number, that is when the value overflows to infinity. -/
def roundRat (f : FloatFormat) (num den : Nat) : Option (Nat × Int) :=
  if num = 0 then some (0, f.minQ)
  else
    let q : Int := max (floorLog2 num den - ((f.precision : Int) - 1)) f.minQ
    let n := num * Nat.pow 2 (-q).toNat
    let d := den * Nat.pow 2 q.toNat
    let m := n / d
    let r := n % d
    let m := if 2 * r > d || (2 * r == d && m % 2 == 1) then m + 1 else m
    let (m, q) := if m == Nat.pow 2 f.precision then (Nat.pow 2 (f.precision - 1), q + 1) else (m, q)
    if q > f.maxQ then none else some (m, q)

/-- The bit pattern, as a natural number, of the value `(-1)^neg · m · 2^q`, which must be a
number of the format (`m < 2^p`, and `q = minQ` when `m < 2^(p-1)`). -/
def encodeFinite (f : FloatFormat) (neg : Bool) (m : Nat) (q : Int) : Nat :=
  let signBit := if neg then Nat.pow 2 (f.width - 1) else 0
  if m < Nat.pow 2 (f.precision - 1) then signBit + m
  else
    let field := (q - f.minQ + 1).toNat
    signBit + field * Nat.pow 2 (f.precision - 1) + (m - Nat.pow 2 (f.precision - 1))

/-- The bit pattern of an infinity. -/
def encodeInfinite (f : FloatFormat) (neg : Bool) : Nat :=
  (if neg then Nat.pow 2 (f.width - 1) else 0) + f.topField * Nat.pow 2 (f.precision - 1)

/-- The bit pattern of the default quiet NaN, positive. -/
def quietNaN (f : FloatFormat) : Nat :=
  f.topField * Nat.pow 2 (f.precision - 1) + Nat.pow 2 (f.precision - 2)

/-- The bit pattern of `(-1)^neg · num / den` rounded to the format. -/
def encodeRat (f : FloatFormat) (neg : Bool) (num den : Nat) : Nat :=
  match f.roundRat num den with
  | some (m, q) => f.encodeFinite neg m q
  | none => f.encodeInfinite neg

/-- The bit pattern of the exact value `(-1)^neg · m · 2^q` rounded to the format. -/
def encodeExact (f : FloatFormat) (neg : Bool) (m : Nat) (q : Int) : Nat :=
  f.encodeRat neg (m * Nat.pow 2 q.toNat) (Nat.pow 2 (-q).toNat)

/-- What a bit pattern of the format denotes. -/
def decode (f : FloatFormat) (bits : Nat) : FloatView :=
  let fracBits := f.precision - 1
  let neg := bits / Nat.pow 2 (f.width - 1) % 2 == 1
  let field := bits / Nat.pow 2 fracBits % Nat.pow 2 f.expBits
  let frac := bits % Nat.pow 2 fracBits
  if field == f.topField then
    if frac == 0 then .infinite neg else .nan
  else if field == 0 then .finite neg frac f.minQ
  else .finite neg (frac + Nat.pow 2 fracBits) ((field : Int) + f.minQ - 1)

example : binary64.minQ = -1074 ∧ binary64.maxQ = 971 := by decide
example : binary32.minQ = -149 ∧ binary32.maxQ = 104 := by decide

end FloatFormat

end RecordQuery
