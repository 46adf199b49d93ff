import RecordQuery.Text.Chars

/-!
# Percent-encoding

Encoding keeps the unreserved characters `A`–`Z`, `a`–`z`, `0`–`9`, `-`, `_`, `.` and `~`,
and writes every other character as its UTF-8 bytes, each as `%` and two upper-case hex
digits.

Decoding is lenient about escapes and strict about the result: a `%` followed by two hex
digits (of either case) stands for that byte, any other `%` stands for itself, and the
resulting bytes must be well-formed UTF-8.
-/

namespace RecordQuery

namespace Percent

/-- The characters that encoding keeps as they are. -/
def isUnreserved (c : Char) : Bool :=
  ('A' ≤ c && c ≤ 'Z') || ('a' ≤ c && c ≤ 'z') || ('0' ≤ c && c ≤ '9') || c = '-' ||
    c = '_' || c = '.' || c = '~'

/-- An upper-case hex digit of a value below 16. -/
def hexDigitChar (n : Nat) : Char :=
  Char.ofNat (if n < 10 then 0x30 + n else 0x41 + n - 10)

/-- The escape of one byte, `%XX`. -/
def escapeByte (b : Nat) : List Char := ['%', hexDigitChar (b / 16), hexDigitChar (b % 16)]

/-- Encodes one character. -/
def encodeChar (c : Char) : List Char :=
  if isUnreserved c then [c] else (Utf8.encodeChar c).flatMap escapeByte

/-- Encodes a text. -/
def encode (s : String) : String := String.ofList (s.toList.flatMap encodeChar)

/-- The value of a hex digit of either case. -/
def hexValue? (c : Char) : Option Nat :=
  if '0' ≤ c && c ≤ '9' then some (c.toNat - 0x30)
  else if 'a' ≤ c && c ≤ 'f' then some (c.toNat - 0x61 + 10)
  else if 'A' ≤ c && c ≤ 'F' then some (c.toNat - 0x41 + 10)
  else none

/-- The bytes a text stands for: escapes become their byte, other characters their UTF-8
bytes. -/
def decodeBytes : List Char → List Nat
  | [] => []
  | '%' :: h :: l :: rest =>
    match hexValue? h, hexValue? l with
    | some a, some b => (16 * a + b) :: decodeBytes rest
    | _, _ => 0x25 :: decodeBytes (h :: l :: rest)
  | c :: rest => Utf8.encodeChar c ++ decodeBytes rest

/-- Decodes a text; fails when the bytes are not UTF-8. -/
def decode (s : String) : Option String :=
  (Utf8.decode (decodeBytes s.toList)).map String.ofList

end Percent

end RecordQuery
