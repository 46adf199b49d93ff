import RecordQuery.Number.Decimal

/-!
# UUIDs

A UUID is a 128-bit number, ordered as a number (which is the order of its sixteen bytes).
Its text is the hyphenated form: 32 lower-case hex digits in groups of 8, 4, 4, 4 and 12.

Four written forms are read, told apart by length: 32 hex digits (simple), the hyphenated
form (36 characters), the hyphenated form in braces (38), and the hyphenated form after
`urn:uuid:` (45), whose letters may be of either case. Hex digits may be of either case;
every other character refuses.
-/

namespace RecordQuery

/-- A universally unique identifier, as a 128-bit number. -/
structure Uuid where
  /-- The 128 bits, the first byte most significant. -/
  bits : BitVec 128
deriving DecidableEq

namespace Uuid

/-- The nil UUID, all zero. -/
def nil : Uuid := ⟨0⟩

/-- The value of a hex digit of either case. -/
def hexValue? (c : Char) : Option Nat :=
  if '0' ≤ c && c ≤ '9' then some (c.toNat - '0'.toNat)
  else if 'a' ≤ c && c ≤ 'f' then some (c.toNat - 'a'.toNat + 10)
  else if 'A' ≤ c && c ≤ 'F' then some (c.toNat - 'A'.toNat + 10)
  else none

/-- The number that a list of hex digits spells, if all are hex digits. -/
def ofHex? (cs : List Char) : Option Nat :=
  cs.foldlM (fun n c => (hexValue? c).map fun d => 16 * n + d) 0

/-- Reads the simple form: exactly 32 hex digits. -/
def readSimple? (cs : List Char) : Option Uuid :=
  if cs.length = 32 then (ofHex? cs).map fun n => ⟨BitVec.ofNat 128 n⟩ else none

/-- Reads the hyphenated form: 36 characters with hyphens at positions 8, 13, 18 and 23 and
hex digits elsewhere. -/
def readHyphenated? (cs : List Char) : Option Uuid :=
  if cs.length = 36 && cs[8]? == some '-' && cs[13]? == some '-' && cs[18]? == some '-' &&
      cs[23]? == some '-' then
    let ds := cs.take 8 ++ (cs.drop 9).take 4 ++ (cs.drop 14).take 4 ++ (cs.drop 19).take 4 ++
      cs.drop 24
    readSimple? ds
  else none

/-- Reads any of the four written forms. -/
def read? (cs : List Char) : Option Uuid :=
  if !cs.all (fun c => c.toNat < 128) then none
  else if cs.length = 32 then readSimple? cs
  else if cs.length = 36 then readHyphenated? cs
  else if cs.length = 38 && cs.head? == some '{' && cs.getLast? == some '}' then
    readHyphenated? ((cs.drop 1).take 36)
  else if cs.length = 45 && (cs.take 9).map Char.toLower == "urn:uuid:".toList then
    readHyphenated? (cs.drop 9)
  else none

/-- The lower-case hex digit of a value below 16. -/
def hexDigit (n : Nat) : Char :=
  if n < 10 then Char.ofNat ('0'.toNat + n) else Char.ofNat ('a'.toNat + n - 10)

/-- The 32 lower-case hex digits of the UUID. -/
def hexDigits (u : Uuid) : List Char :=
  (List.range 32).map fun i => hexDigit (u.bits.toNat / Nat.pow 16 (31 - i) % 16)

/-- The hyphenated lower-case text. -/
def toText (u : Uuid) : String :=
  let ds := u.hexDigits
  String.ofList (ds.take 8 ++ ['-'] ++ (ds.drop 8).take 4 ++ ['-'] ++ (ds.drop 12).take 4 ++
    ['-'] ++ (ds.drop 16).take 4 ++ ['-'] ++ ds.drop 20)

/-- UUIDs compare as numbers. -/
def compare (u v : Uuid) : Ordering := Ord.compare u.bits.toNat v.bits.toNat

end Uuid

end RecordQuery
