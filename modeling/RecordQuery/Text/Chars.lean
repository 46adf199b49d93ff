/-!
# Characters

Three facts about single characters that the readers and writers of this library share.

A character is blank when it has the Unicode `White_Space` property. Trimming removes
blanks from both ends of a text and keeps everything between them, blanks included.
Every reader in this library trims its input with this rule before looking at it.

A property of characters from the Unicode tables is kept as the list of the inclusive ranges
of code points that have it, in increasing order; a code point has the property when some
range holds it (`Text.inRanges`).

Characters are written as one to four bytes by the rules of UTF-8 (RFC 3629). Decoding
accepts exactly the byte sequences that encoding produces: no overlong forms, no surrogates,
nothing above U+10FFFF.
-/

namespace RecordQuery

namespace Text

/-! ### Blanks and trimming -/

/-- The Unicode `White_Space` property: the ASCII controls tab to carriage return, space,
next line, no-break space, ogham space mark, the spaces U+2000 to U+200A, the line and
paragraph separators, narrow no-break space, medium mathematical space and ideographic
space. -/
def isBlank (c : Char) : Bool :=
  let n := c.toNat
  (0x09 ≤ n && n ≤ 0x0D) || n == 0x20 || n == 0x85 || n == 0xA0 || n == 0x1680 ||
    (0x2000 ≤ n && n ≤ 0x200A) || n == 0x2028 || n == 0x2029 || n == 0x202F ||
    n == 0x205F || n == 0x3000

/-- Drops the blanks at the front of a character list. -/
def trimStart (cs : List Char) : List Char :=
  cs.dropWhile isBlank

/-- Drops the blanks at the back of a character list. -/
def trimEnd (cs : List Char) : List Char :=
  ((cs.reverse).dropWhile isBlank).reverse

/-- Drops the blanks at both ends of a character list. -/
def trimChars (cs : List Char) : List Char :=
  trimEnd (trimStart cs)

/-- Drops the blanks at both ends of a text. -/
def trim (s : String) : String :=
  String.ofList (trimChars s.toList)

/-! ### Sets of code points -/

/-- Whether one of the inclusive ranges `(lo, hi)` holds the code point `n`. -/
def inRanges (rs : List (Nat × Nat)) (n : Nat) : Bool :=
  rs.any fun r => r.1 ≤ n && n ≤ r.2

end Text

/-! ### UTF-8 -/

namespace Utf8

/-- The bytes of one character. -/
def encodeChar (c : Char) : List Nat :=
  let n := c.toNat
  if n < 0x80 then [n]
  else if n < 0x800 then [0xC0 + n / 64, 0x80 + n % 64]
  else if n < 0x10000 then [0xE0 + n / 4096, 0x80 + n / 64 % 64, 0x80 + n % 64]
  else [0xF0 + n / 262144, 0x80 + n / 4096 % 64, 0x80 + n / 64 % 64, 0x80 + n % 64]

/-- The bytes of a text. -/
def encode (cs : List Char) : List Nat := cs.flatMap encodeChar

/-- A continuation byte, `80` to `BF`. -/
def isTail (b : Nat) : Bool := 0x80 ≤ b && b ≤ 0xBF

/-- Decodes bytes, or fails on the first byte that no well-formed sequence allows. -/
def decode : List Nat → Option (List Char)
  | [] => some []
  | a :: rest =>
    if a < 0x80 then (decode rest).map (Char.ofNat a :: ·)
    else if 0xC2 ≤ a && a ≤ 0xDF then
      match rest with
      | b :: rest' =>
        if isTail b then (decode rest').map (Char.ofNat ((a - 0xC0) * 64 + (b - 0x80)) :: ·)
        else none
      | [] => none
    else if 0xE0 ≤ a && a ≤ 0xEF then
      match rest with
      | b :: c :: rest' =>
        let lo := if a = 0xE0 then 0xA0 else 0x80
        let hi := if a = 0xED then 0x9F else 0xBF
        if lo ≤ b && b ≤ hi && isTail c then
          (decode rest').map
            (Char.ofNat ((a - 0xE0) * 4096 + (b - 0x80) * 64 + (c - 0x80)) :: ·)
        else none
      | _ => none
    else if 0xF0 ≤ a && a ≤ 0xF4 then
      match rest with
      | b :: c :: d :: rest' =>
        let lo := if a = 0xF0 then 0x90 else 0x80
        let hi := if a = 0xF4 then 0x8F else 0xBF
        if lo ≤ b && b ≤ hi && isTail c && isTail d then
          (decode rest').map (Char.ofNat ((a - 0xF0) * 262144 + (b - 0x80) * 4096 +
            (c - 0x80) * 64 + (d - 0x80)) :: ·)
        else none
      | _ => none
    else none

end Utf8

end RecordQuery
