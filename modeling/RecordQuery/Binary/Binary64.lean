import RecordQuery.Binary.Format

/-!
# Binary64 and binary32 numbers

A `Binary64` is an IEEE 754 double held as its 64-bit pattern, and a `Binary32` a single
held as its 32-bit pattern. All arithmetic a query needs is exact or rounds once through
`FloatFormat.roundRat`: conversion of an integer, widening a single to a double,
narrowing a double to a single, and doubling.

Two orders are defined. `compare?` is the IEEE comparison: NaN is unordered and the two
zeros are equal. `totalCompare` is the IEEE 754 total order, in which negative NaNs come
first, then the negative numbers, `-0`, `+0`, the positive numbers, and positive NaNs last.
-/

namespace RecordQuery

/-- An IEEE 754 binary64 number, held as its bit pattern. -/
structure Binary64 where
  /-- The 64-bit pattern. -/
  bits : UInt64
deriving DecidableEq

/-- An IEEE 754 binary32 number, held as its bit pattern. -/
structure Binary32 where
  /-- The 32-bit pattern. -/
  bits : UInt32
deriving DecidableEq

namespace Binary64

/-- The number with the given bit pattern, read modulo `2^64`. -/
def ofBitsNat (n : Nat) : Binary64 := ⟨UInt64.ofNat n⟩

/-- What the number denotes. -/
def view (x : Binary64) : FloatView := FloatFormat.binary64.decode x.bits.toNat

/-- The default quiet NaN. -/
def nan : Binary64 := ofBitsNat FloatFormat.binary64.quietNaN

/-- An infinity. -/
def infinity (neg : Bool) : Binary64 := ofBitsNat (FloatFormat.binary64.encodeInfinite neg)

/-- Positive zero. -/
def zero : Binary64 := ⟨0⟩

/-- The sign bit is set. -/
def signBit (x : Binary64) : Bool := x.bits.toNat ≥ Nat.pow 2 63

/-- The value is a NaN. -/
def isNaN (x : Binary64) : Bool :=
  match x.view with
  | .nan => true
  | _ => false

/-- The value is neither infinite nor NaN. -/
def isFinite (x : Binary64) : Bool :=
  match x.view with
  | .finite .. => true
  | _ => false

/-- The value is `+0` or `-0`. -/
def isZero (x : Binary64) : Bool := x.bits.toNat % Nat.pow 2 63 == 0

/-- Flips the sign bit. -/
def neg (x : Binary64) : Binary64 := ofBitsNat ((x.bits.toNat + Nat.pow 2 63) % Nat.pow 2 64)

/-- The nearest double to `(-1)^neg · num / den`, ties to even. -/
def ofRat (neg : Bool) (num den : Nat) : Binary64 :=
  ofBitsNat (FloatFormat.binary64.encodeRat neg num den)

/-- The nearest double to an integer, ties to even; zero gives `+0`. -/
def ofInt (n : Int) : Binary64 := ofRat (n < 0) n.natAbs 1

/-- Twice the value, rounded: exact unless it overflows to infinity. A NaN stays the same
NaN, made quiet. -/
def double (x : Binary64) : Binary64 :=
  match x.view with
  | .nan => ofBitsNat (x.bits.toNat ||| Nat.pow 2 51)
  | .infinite _ => x
  | .finite neg m q => ofBitsNat (FloatFormat.binary64.encodeExact neg m (q + 1))

/-- The key of the IEEE 754 total order: a natural number that grows with the order. -/
def totalKey (x : Binary64) : Nat :=
  let b := x.bits.toNat
  if b ≥ Nat.pow 2 63 then Nat.pow 2 64 - 1 - b else Nat.pow 2 63 + b

/-- The IEEE 754 total order. -/
def totalCompare (x y : Binary64) : Ordering := compare x.totalKey y.totalKey

/-- The IEEE comparison: `none` when either side is NaN, and the two zeros are equal. -/
def compare? (x y : Binary64) : Option Ordering :=
  if x.isNaN || y.isNaN then none
  else if x.isZero && y.isZero then some .eq
  else some (totalCompare x y)

/-- IEEE equality: NaN equals nothing, and `-0 = +0`. -/
def ieeeEq (x y : Binary64) : Bool := x.compare? y == some .eq

end Binary64

namespace Binary32

/-- The number with the given bit pattern, read modulo `2^32`. -/
def ofBitsNat (n : Nat) : Binary32 := ⟨UInt32.ofNat n⟩

/-- What the number denotes. -/
def view (x : Binary32) : FloatView := FloatFormat.binary32.decode x.bits.toNat

/-- The nearest single to `(-1)^neg · num / den`, ties to even. -/
def ofRat (neg : Bool) (num den : Nat) : Binary32 :=
  ofBitsNat (FloatFormat.binary32.encodeRat neg num den)

/-- The nearest single to an integer. -/
def ofInt (n : Int) : Binary32 := ofRat (n < 0) n.natAbs 1

/-- The default quiet NaN of the given sign. -/
def nan (neg : Bool) : Binary32 :=
  ofBitsNat (FloatFormat.binary32.quietNaN + if neg then Nat.pow 2 31 else 0)

/-- An infinity. -/
def infinity (neg : Bool) : Binary32 := ofBitsNat (FloatFormat.binary32.encodeInfinite neg)

/-- The same value as a double, which is exact; a NaN keeps its sign and payload and is
made quiet. -/
def toBinary64 (x : Binary32) : Binary64 :=
  match x.view with
  | .nan =>
    let b := x.bits.toNat
    let sign := if b ≥ Nat.pow 2 31 then Nat.pow 2 63 else 0
    Binary64.ofBitsNat (sign + FloatFormat.binary64.topField * Nat.pow 2 52 + (b % Nat.pow 2 23) * Nat.pow 2 29
      ||| Nat.pow 2 51)
  | .infinite neg => Binary64.infinity neg
  | .finite neg m q => Binary64.ofBitsNat (FloatFormat.binary64.encodeExact neg m q)

end Binary32

namespace Binary64

/-- The nearest single to the double; a NaN keeps its sign and the high bits of its payload
and is made quiet. -/
def toBinary32 (x : Binary64) : Binary32 :=
  match x.view with
  | .nan =>
    let b := x.bits.toNat
    let sign := if b ≥ Nat.pow 2 63 then Nat.pow 2 31 else 0
    Binary32.ofBitsNat (sign + FloatFormat.binary32.topField * Nat.pow 2 23 + (b % Nat.pow 2 52) / Nat.pow 2 29
      ||| Nat.pow 2 22)
  | .infinite neg => Binary32.infinity neg
  | .finite neg m q => Binary32.ofBitsNat (FloatFormat.binary32.encodeExact neg m q)

end Binary64

end RecordQuery
