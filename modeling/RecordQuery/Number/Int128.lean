import RecordQuery.Number.Decimal

/-!
# 128-bit signed integers

Integer values of queries are signed 128-bit numbers. The type keeps the bounds as
proof fields, so every value a reader builds is in range by construction.

A decimal integer is read as an optional `+` or `-`, then one or more ASCII digits and
nothing else; a value outside the range is no integer.
-/

namespace RecordQuery

/-- A signed integer in `[-2^127, 2^127)`. -/
structure Int128 where
  /-- The number itself. -/
  val : Int
  min_le : -Int.pow 2 127 ≤ val
  lt_max : val < Int.pow 2 127
deriving DecidableEq

namespace Int128

/-- The integer `n` when it is in range. -/
def ofInt? (n : Int) : Option Int128 :=
  if h : -Int.pow 2 127 ≤ n ∧ n < Int.pow 2 127 then some ⟨n, h.1, h.2⟩ else none

/-- Zero. -/
def zero : Int128 := ⟨0, by decide, by decide⟩

/-- Reads a decimal integer: an optional sign, then ASCII digits only. -/
def read? (cs : List Char) : Option Int128 :=
  let (neg, ds) : Bool × List Char :=
    match cs with
    | '+' :: r => (false, r)
    | '-' :: r => (true, r)
    | r => (false, r)
  if ds.isEmpty || !ds.all Decimal.isDigit then none
  else
    let n : Int := Decimal.ofDigits ds
    ofInt? (if neg then -n else n)

/-- The decimal text of the number. -/
def toText (n : Int128) : String :=
  Decimal.intText n.val

theorem ofInt?_val {n : Int} {x : Int128} (h : ofInt? n = some x) : x.val = n := by
  unfold ofInt? at h
  split at h
  · cases h; rfl
  · cases h

end Int128

end RecordQuery
