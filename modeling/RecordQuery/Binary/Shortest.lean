import RecordQuery.Binary.Binary64
import RecordQuery.Number.Decimal

/-!
# Shortest decimal text of a double

A finite positive double `x = m · 2^q` is the rounding of every real in an interval around
it: halfway to each neighbour, both ends included exactly when `m` is even (a tie rounds to
the even significand). `Shortest.digits` finds, for `n = 1, 2, …, 17` in turn, whether one
of the two `n`-digit decimals next to `x` lies in that interval; the first `n` with a hit
gives the answer, the nearer of two hits wins, and an exact tie between the two is settled
by the style. Seventeen digits always suffice for a double.

The natural text of a double then writes those digits positionally when the decimal
exponent of `x` lies in a window, and in scientific notation otherwise. The window, the
tie and the spellings of NaN and infinity are the fields of a `FloatStyle`.
-/

namespace RecordQuery

namespace Shortest

/-- Compares `c · 10^s` with `u · 2^p`, in exact arithmetic. -/
def cmpDecBin (c : Nat) (s : Int) (u : Nat) (p : Int) : Ordering :=
  compare (c * Nat.pow 10 s.toNat * Nat.pow 2 (-p).toNat) (u * Nat.pow 2 p.toNat * Nat.pow 10 (-s).toNat)

/-- `⌊u · 2^p / 10^s⌋`. -/
def floorDiv (u : Nat) (p s : Int) : Nat :=
  (u * Nat.pow 2 p.toNat * Nat.pow 10 (-s).toNat) / (Nat.pow 2 (-p).toNat * Nat.pow 10 s.toNat)

/-- `⌊log₁₀ (m · 2^q)⌋` for `m > 0`: an estimate from the binary exponent, corrected by
exact comparison with the powers of ten next to it. -/
def floorLog10 (m : Nat) (q : Int) : Int :=
  let e : Int := (((m.log2 : Int) + q) * 78913) / 262144
  if cmpDecBin 1 e m q == .gt then e - 1
  else if cmpDecBin 1 (e + 1) m q != .gt then e + 1
  else e

/-- Removes the trailing zeros of `c · 10^s`, raising the exponent. -/
def stripZeros (c : Nat) (s : Int) : Nat × Int :=
  if h : c ≠ 0 ∧ c % 10 = 0 then stripZeros (c / 10) (s + 1) else (c, s)
termination_by c
decreasing_by omega

/-- Whether `c · 10^s` lies between `lo · 2^p` and `hi · 2^p`, the ends included when
`incl`. -/
def inside (lo hi : Nat) (p : Int) (incl : Bool) (c : Nat) (s : Int) : Bool :=
  let a := cmpDecBin c s lo p
  let b := cmpDecBin c s hi p
  (a == .gt || (incl && a == .eq)) && (b == .lt || (incl && b == .eq))

/-- The multiple of `10^s` that rounds to the positive double `m · 2^q`, if there is one
among the two next to it; of two, the nearer, and `tieUp` settles a tie. The rounding
interval is written in quarters of `2^q`: from `4m - 1` (when `lowerHalf`) or `4m - 2` up to
`4m + 2`, its ends included when `m` is even. -/
def attempt (m : Nat) (q : Int) (lowerHalf tieUp : Bool) (s : Int) : Option (Nat × Int) :=
  let p := q - 2
  let x := 4 * m
  let lo := if lowerHalf then 4 * m - 1 else 4 * m - 2
  let hi := 4 * m + 2
  let incl := m % 2 == 0
  let cl := floorDiv x p s
  let ch := cl + 1
  match inside lo hi p incl cl s, inside lo hi p incl ch s with
  | true, true =>
    let xs := x * Nat.pow 2 p.toNat * Nat.pow 10 (-s).toNat
    let dl := xs - cl * Nat.pow 10 s.toNat * Nat.pow 2 (-p).toNat
    let dh := ch * Nat.pow 10 s.toNat * Nat.pow 2 (-p).toNat - xs
    if dl < dh || (dl == dh && !tieUp) then some (cl, s) else some (ch, s)
  | true, false => some (cl, s)
  | false, true => some (ch, s)
  | false, false => none

/-- The shortest decimal `c · 10^s` that rounds to the positive double `m · 2^q`, the nearest
of those, with no trailing zeros in `c`. `lowerHalf` says that the gap to the next lower
double is half the gap to the next higher one (a power of two above the least normal);
`tieUp` settles a decimal exactly halfway between two candidates towards the larger. -/
def digits (m : Nat) (q : Int) (lowerHalf tieUp : Bool) : Nat × Int :=
  let e := floorLog10 m q
  let (c, s) := ((List.range 17).findSome? fun (i : Nat) => attempt m q lowerHalf tieUp (e - i)).getD
    (floorDiv (4 * m) (q - 2) (e - 16), e - 16)
  stripZeros c s

end Shortest

/-- The decisions of a float's text: decimal exponents `E` with `lowExp ≤ E < highExp` are
written positionally, others in scientific notation; how a tie between two shortest
candidates goes; and the spellings of NaN and of infinity. -/
structure FloatStyle where
  lowExp : Int
  highExp : Int
  tieUp : Bool
  nanText : String
  infText : String

namespace FloatStyle

/-- The natural text of a value: positional from `1e-4` up to below `1e16`, with at least
one digit after the point; otherwise `d.ddde±x` with a bare exponent (`1e16`, `1e-5`); ties
go up; `NaN`, `inf`, `-inf`; a negative zero keeps its sign. -/
def natural : FloatStyle := ⟨-4, 16, true, "NaN", "inf"⟩

/-- Digits `ds` with value `0.ds · 10^k`, written positionally. -/
def positional (ds : List Char) (k : Int) : List Char :=
  if k ≤ 0 then ['0', '.'] ++ List.replicate (-k).toNat '0' ++ ds
  else if k.toNat < ds.length then ds.take k.toNat ++ ['.'] ++ ds.drop k.toNat
  else ds ++ List.replicate (k.toNat - ds.length) '0' ++ ['.', '0']

/-- Digits `ds` with value `0.ds · 10^k`, written as `d.ddd` then `e` and the exponent. -/
def scientific (ds : List Char) (k : Int) : List Char :=
  let mant := match ds with
    | [] => ['0']
    | [d] => [d]
    | d :: rest => d :: '.' :: rest
  mant ++ ['e'] ++ (Decimal.intText (k - 1)).toList

/-- The text of a double in this style. -/
def render (st : FloatStyle) (x : Binary64) : String :=
  match x.view with
  | .nan => st.nanText
  | .infinite neg => (if neg then "-" else "") ++ st.infText
  | .finite neg m q =>
    let sign := if neg then "-" else ""
    if m = 0 then sign ++ "0.0"
    else
      let lowerHalf := m == Nat.pow 2 52 && q > FloatFormat.binary64.minQ
      let (c, s) := Shortest.digits m q lowerHalf st.tieUp
      let ds := Decimal.natDigits c
      let k : Int := s + ds.length
      let e := Shortest.floorLog10 m q
      let body := if st.lowExp ≤ e && e < st.highExp then positional ds k else scientific ds k
      sign ++ String.ofList body

end FloatStyle

/-- The natural text of a double: shortest digits that read back, see `FloatStyle.natural`. -/
def Binary64.toText (x : Binary64) : String := FloatStyle.natural.render x

end RecordQuery
