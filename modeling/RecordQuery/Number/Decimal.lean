/-!
# Decimal digits

Reading and writing natural numbers and integers in base ten. Only the ASCII digits
`0` to `9` count as digits: readers in this library never accept other decimal digits.
-/

namespace RecordQuery

namespace Decimal

/-- The ASCII decimal digits. -/
def isDigit (c : Char) : Bool :=
  '0' ≤ c && c ≤ '9'

/-- The value of one ASCII digit. -/
def digitValue (c : Char) : Nat :=
  c.toNat - '0'.toNat

/-- The number that a list of digits spells, most significant first; the empty list
spells zero. -/
def ofDigits (ds : List Char) : Nat :=
  ds.foldl (fun n c => 10 * n + digitValue c) 0

/-- Splits a character list after its longest prefix of digits. -/
def spanDigits (cs : List Char) : List Char × List Char :=
  (cs.takeWhile isDigit, cs.dropWhile isDigit)

/-- The decimal digits of a natural number, without leading zeros (`0` for zero). -/
def natDigits (n : Nat) : List Char :=
  Nat.toDigits 10 n

/-- The decimal text of a natural number. -/
def natText (n : Nat) : String :=
  String.ofList (natDigits n)

/-- The decimal text of an integer, with `-` before a negative one. -/
def intText (n : Int) : String :=
  if n < 0 then "-" ++ natText n.natAbs else natText n.natAbs

/-- The decimal digits of `n`, with zeros in front up to `width` digits. -/
def padDigits (width n : Nat) : List Char :=
  let ds := natDigits n
  List.replicate (width - ds.length) '0' ++ ds

/-- The decimal text of `n` with zeros in front up to `width` digits. -/
def padText (width n : Nat) : String :=
  String.ofList (padDigits width n)

/-- The number of decimal digits of a positive number (one for zero). -/
def digitCount (n : Nat) : Nat :=
  (natDigits n).length

theorem isDigit_iff (c : Char) : isDigit c = true ↔ '0' ≤ c ∧ c ≤ '9' := by
  simp [isDigit]

@[simp] theorem ofDigits_nil : ofDigits [] = 0 := rfl

end Decimal

end RecordQuery
