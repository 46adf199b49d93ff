import RecordQuery.Derive.Token
import RecordQuery.Text.Chars
import RecordQuery.Text.IdentTable
import RecordQuery.Text.Quote

/-!
# Reading source text into token trees

Source text → token trees. Blanks (Unicode White_Space and the two direction marks) and
comments separate tokens; a doc comment (`///`, `//!`, `/** */`, `/*! */`) stands for the
attribute `#[doc = "…"]` (inner: `#![doc = "…"]`) with its text as a string literal.

Each scanner takes the characters from the start of a token and returns the rest of the
input after it, or nothing when the text there is no such token. They are tried in order:
literals (strings, byte strings, C strings, bytes, characters, floats, integers, each with
an optional suffix), punctuation, identifiers. A literal is kept as the text it was read
from.

What is refused: an unknown escape in a quoted literal, a `\u{…}` that names no character
or has more than six digits, a bare carriage return, a digit out of the base of an integer,
a raw identifier `r#_`, `r#crate`, `r#self`, `r#Self` or `r#super`, an apostrophe that starts
neither a character nor a lifetime, a character that starts no token, and unbalanced
delimiters. Then the whole text is refused.
-/

namespace RecordQuery

namespace Derive

namespace Lex

/-- Whether a character may start an identifier: `_` or XID_Start. -/
def isIdentStart (c : Char) : Bool :=
  ('a' ≤ c && c ≤ 'z') || ('A' ≤ c && c ≤ 'Z') || c = '_' ||
    (c.toNat ≥ 0x80 && Text.inRanges Text.identStartRanges c.toNat)

/-- Whether a character may continue an identifier: XID_Continue. -/
def isIdentContinue (c : Char) : Bool :=
  ('a' ≤ c && c ≤ 'z') || ('A' ≤ c && c ≤ 'Z') || ('0' ≤ c && c ≤ '9') || c = '_' ||
    (c.toNat ≥ 0x80 && Text.inRanges Text.identContinueRanges c.toNat)

/-- Blanks between tokens: White_Space and the left-to-right and right-to-left marks. -/
def isBlank (c : Char) : Bool :=
  Text.isBlank c || c.toNat = 0x200E || c.toNat = 0x200F

/-- The punctuation characters. -/
def isPunctChar (c : Char) : Bool := "~!@#$%^&*-=+|;:,<.>/?'".toList.contains c

/-- Whether a character is a decimal digit. -/
def isDigit (c : Char) : Bool := '0' ≤ c && c ≤ '9'

/-- The value of a hex digit of either case. -/
def hexValue? (c : Char) : Option Nat :=
  if '0' ≤ c && c ≤ '9' then some (c.toNat - '0'.toNat)
  else if 'a' ≤ c && c ≤ 'f' then some (c.toNat - 'a'.toNat + 10)
  else if 'A' ≤ c && c ≤ 'F' then some (c.toNat - 'A'.toNat + 10)
  else none

/-- Whether a character is a hex digit. -/
def isHexDigit (c : Char) : Bool := (hexValue? c).isSome

/-- The characters of an identifier (not raw) and the rest after it. -/
def identChars : List Char → Option (List Char × List Char)
  | c :: rest =>
    if isIdentStart c then some (c :: rest.takeWhile isIdentContinue, rest.dropWhile isIdentContinue)
    else none
  | [] => none

/-- The rest after an optional literal suffix, which is an identifier. -/
def afterSuffix (cs : List Char) : List Char :=
  match identChars cs with
  | some (_, rest) => rest
  | none => cs

/-- Names that no raw identifier may have. -/
def unrawable : List String := ["_", "super", "self", "Self", "crate"]

/-- An identifier, raw or not, and the rest after it. -/
def identAny (cs : List Char) : Option (String × List Char) :=
  match cs with
  | 'r' :: '#' :: rest => do
    let (name, after) ← identChars rest
    let s := String.ofList name
    if unrawable.contains s then none else some ("r#" ++ s, after)
  | _ => (identChars cs).map fun (name, after) => (String.ofList name, after)

/-- Beginnings of literals, which no identifier may take. -/
def literalPrefixes : List (List Char) :=
  ["r\"", "r#\"", "r##", "b\"", "b'", "br\"", "br#", "c\"", "cr\"", "cr#"].map String.toList

/-- An identifier token and the rest after it. -/
def ident (cs : List Char) : Option (Token × List Char) :=
  if literalPrefixes.any (·.isPrefixOf cs) then none
  else (identAny cs).map fun (s, rest) => (.ident s, rest)

/-! ## Escapes -/

/-- The rest after `\u{…}` (its `u` already read), with the code point: one to six hex
digits, underscores after the first, naming a character. -/
def unicodeEscape (cs : List Char) : Option (Nat × List Char) :=
  match cs with
  | '\x7b' :: rest => digits rest 0 0
  | _ => none
where
  /-- The digits after the brace, with the value and count so far. -/
  digits : List Char → Nat → Nat → Option (Nat × List Char)
    | [], _, _ => none
    | c :: r, value, len =>
      if c = '_' && len > 0 then digits r value len
      else if c = '\x7d' && len > 0 then
        if value ≤ 0x10FFFF && !(0xD800 ≤ value && value ≤ 0xDFFF) then some (value, r) else none
      else
        match hexValue? c with
        | some d => if len = 6 then none else digits r (16 * value + d) (len + 1)
        | none => none

/-- The rest after `\x..` in a character or string (its `x` already read): an octal digit,
then a hex digit. -/
def charHexEscape : List Char → Option (List Char)
  | a :: b :: r => if '0' ≤ a && a ≤ '7' && isHexDigit b then some r else none
  | _ => none

/-- The rest after `\x..` in a byte or byte string: two hex digits. -/
def byteHexEscape : List Char → Option (List Char)
  | a :: b :: r => if isHexDigit a && isHexDigit b then some r else none
  | _ => none

/-- The rest after `\x..` in a C string: two hex digits, not both zero. -/
def nonzeroHexEscape : List Char → Option (List Char)
  | a :: b :: r => if isHexDigit a && isHexDigit b && !(a = '0' && b = '0') then some r else none
  | _ => none

/-- The rest after the blanks that follow a line break escaped with a backslash: spaces,
tabs and line breaks, a carriage return only before a line feed. Something must follow. -/
def skipContinued : List Char → Option (List Char)
  | [] => none
  | '\r' :: '\n' :: rest => skipContinued rest
  | '\r' :: _ => none
  | c :: rest =>
    if c = ' ' || c = '\t' || c = '\n' then skipContinued rest else some (c :: rest)

/-- The rest after a backslash and the line break `c` it escapes. -/
def continuation (c : Char) (rest : List Char) : Option (List Char) :=
  if c = '\r' then
    match rest with
    | '\n' :: r => skipContinued r
    | _ => none
  else skipContinued rest

/-! ## Quoted literals -/

/-- The rest after a string's closing quote and suffix (its opening quote already read). -/
def cookedString : Nat → List Char → Option (List Char)
  | 0, _ => none
  | _ + 1, [] => none
  | f + 1, c :: rest =>
    if c = '"' then some (afterSuffix rest)
    else if c = '\r' then
      match rest with
      | '\n' :: r => cookedString f r
      | _ => none
    else if c = '\\' then
      match rest with
      | 'x' :: r => (charHexEscape r).bind (cookedString f)
      | 'u' :: r => (unicodeEscape r).bind fun p => cookedString f p.2
      | e :: r =>
        if "nrt\\'\"0".toList.contains e then cookedString f r
        else if e = '\n' || e = '\r' then (continuation e r).bind (cookedString f)
        else none
      | [] => none
    else cookedString f rest

/-- The rest after a byte string's closing quote and suffix: ASCII characters only. -/
def cookedByteString : Nat → List Char → Option (List Char)
  | 0, _ => none
  | _ + 1, [] => none
  | f + 1, c :: rest =>
    if c = '"' then some (afterSuffix rest)
    else if c = '\r' then
      match rest with
      | '\n' :: r => cookedByteString f r
      | _ => none
    else if c = '\\' then
      match rest with
      | 'x' :: r => (byteHexEscape r).bind (cookedByteString f)
      | e :: r =>
        if "nrt\\0'\"".toList.contains e then cookedByteString f r
        else if e = '\n' || e = '\r' then (continuation e r).bind (cookedByteString f)
        else none
      | [] => none
    else if c.toNat < 0x80 then cookedByteString f rest
    else none

/-- The rest after a C string's closing quote and suffix: no NUL, written or escaped. -/
def cookedCString : Nat → List Char → Option (List Char)
  | 0, _ => none
  | _ + 1, [] => none
  | f + 1, c :: rest =>
    if c = '"' then some (afterSuffix rest)
    else if c = '\r' then
      match rest with
      | '\n' :: r => cookedCString f r
      | _ => none
    else if c = '\\' then
      match rest with
      | 'x' :: r => (nonzeroHexEscape r).bind (cookedCString f)
      | 'u' :: r =>
        (unicodeEscape r).bind fun p => if p.1 = 0 then none else cookedCString f p.2
      | e :: r =>
        if "nrt\\'\"".toList.contains e then cookedCString f r
        else if e = '\n' || e = '\r' then (continuation e r).bind (cookedCString f)
        else none
      | [] => none
    else if c.toNat = 0 then none
    else cookedCString f rest

/-- What a raw literal refuses in its text. -/
inductive RawKind where
  | text
  | bytes
  | cText

/-- The rest after a raw literal's closing quote, its `hashes` hashes and suffix. -/
def rawBody (kind : RawKind) (hashes : Nat) : List Char → Option (List Char)
  | [] => none
  | c :: rest =>
    if c = '"' && rest.length ≥ hashes && (rest.take hashes).all (· = '#') then
      some (afterSuffix (rest.drop hashes))
    else if c = '\r' then
      match rest with
      | '\n' :: r => rawBody kind hashes r
      | _ => none
    else
      match kind with
      | .bytes => if c.toNat < 0x80 then rawBody kind hashes rest else none
      | .cText => if c.toNat = 0 then none else rawBody kind hashes rest
      | .text => rawBody kind hashes rest

/-- The rest after a raw literal whose `r` was read: at most 255 hashes, a quote, the text,
a quote and as many hashes. -/
def rawLiteral (kind : RawKind) (cs : List Char) : Option (List Char) :=
  let hashes := (cs.takeWhile (· = '#')).length
  match cs.drop hashes with
  | '"' :: rest => if hashes > 255 then none else rawBody kind hashes rest
  | _ => none

/-- The rest after a byte literal (its `b'` already read): one ASCII character or escape,
a quote and a suffix. -/
def byteLiteral (cs : List Char) : Option (List Char) :=
  let body : Option (List Char) :=
    match cs with
    | '\\' :: 'x' :: r => byteHexEscape r
    | '\\' :: e :: r => if "nrt\\0'\"".toList.contains e then some r else none
    | '\\' :: [] => none
    | c :: r => if c.toNat < 0x80 then some r else none
    | [] => none
  match body with
  | some ('\'' :: r) => some (afterSuffix r)
  | _ => none

/-- The rest after a character literal (its quote already read): one character or escape,
a quote and a suffix. -/
def charLiteral (cs : List Char) : Option (List Char) :=
  let body : Option (List Char) :=
    match cs with
    | '\\' :: 'x' :: r => charHexEscape r
    | '\\' :: 'u' :: r => (unicodeEscape r).map (·.2)
    | '\\' :: e :: r => if "nrt\\0'\"".toList.contains e then some r else none
    | '\\' :: [] => none
    | _ :: r => some r
    | [] => none
  match body with
  | some ('\'' :: r) => some (afterSuffix r)
  | _ => none

/-! ## Numbers -/

/-- The rest after digits in a base: a digit of the base or an underscore each, at least one
digit (in base 10 the first must be a digit). A decimal digit beyond the base refuses. -/
def digitRun (base : Nat) : Bool → List Char → Option (List Char)
  | empty, [] => if empty then none else some []
  | empty, c :: r =>
    if isDigit c then
      if c.toNat - '0'.toNat ≥ base then none else digitRun base false r
    else if isHexDigit c then
      if base ≤ 10 then (if empty then none else some (c :: r)) else digitRun base false r
    else if c = '_' then
      if empty && base = 10 then none else digitRun base empty r
    else if empty then none else some (c :: r)

/-- The rest after the digits of an integer, with its base prefix. -/
def intDigits (cs : List Char) : Option (List Char) :=
  match cs with
  | '0' :: 'x' :: r => digitRun 16 true r
  | '0' :: 'o' :: r => digitRun 8 true r
  | '0' :: 'b' :: r => digitRun 2 true r
  | _ => digitRun 10 true cs

/-- Refuses when an identifier character follows a number. -/
def wordBreak (cs : List Char) : Option (List Char) :=
  match cs with
  | c :: _ => if isIdentContinue c then none else some cs
  | [] => some []

/-- The rest after an optional suffix that starts with an identifier character. -/
def numberSuffix (cs : List Char) : List Char :=
  match cs with
  | c :: _ => if isIdentStart c then afterSuffix cs else cs
  | [] => cs

/-- The rest after an integer literal and its suffix. -/
def intLiteral (cs : List Char) : Option (List Char) := do
  let rest ← intDigits cs
  wordBreak (numberSuffix rest)

/-- The digits, underscores and point of a decimal mantissa after its first digit: the rest
(at the exponent mark when there is one), and whether a point and an exponent mark were
seen. A point followed by a point or an identifier character refuses. -/
def mantissa : List Char → Bool → Option (List Char × Bool × Bool)
  | [], dot => some ([], dot, false)
  | c :: r, dot =>
    if isDigit c || c = '_' then mantissa r dot
    else if c = '.' then
      if dot then some (c :: r, dot, false)
      else
        match r with
        | d :: _ => if d = '.' || isIdentStart d then none else mantissa r true
        | [] => mantissa r true
    else if c = 'e' || c = 'E' then some (c :: r, dot, true)
    else some (c :: r, dot, false)

/-- The rest after an exponent (its mark already read): one sign at most before the digits,
underscores anywhere, at least one digit. None when the exponent is incomplete. -/
def exponent : List Char → Bool → Bool → Option (List Char)
  | [], _, value => if value then some [] else none
  | c :: r, sign, value =>
    if c = '+' || c = '-' then
      if value then some (c :: r)
      else if sign then none
      else exponent r true value
    else if isDigit c then exponent r sign true
    else if c = '_' then exponent r sign value
    else if value then some (c :: r) else none

/-- The rest after the digits of a float: a point or an exponent is needed. An incomplete
exponent after a point leaves the float at the point's digits. -/
def floatDigits (cs : List Char) : Option (List Char) :=
  match cs with
  | c :: r =>
    if !isDigit c then none
    else
      match mantissa r false with
      | none => none
      | some (rest, dot, exp) =>
        if !(dot || exp) then none
        else if !exp then some rest
        else
          match exponent (rest.drop 1) false false with
          | some after => some after
          | none => if dot then some rest else none
  | [] => none

/-- The rest after a float literal and its suffix. -/
def floatLiteral (cs : List Char) : Option (List Char) := do
  let rest ← floatDigits cs
  wordBreak (numberSuffix rest)

/-- The rest after a literal of any kind. -/
def literalRest (cs : List Char) : Option (List Char) :=
  let fuel := cs.length + 1
  match cs with
  | '"' :: r => cookedString fuel r
  | 'r' :: r => (rawLiteral .text r).orElse fun _ => other
  | _ => other
where
  /-- Literals that do not start with a quote or `r`. -/
  other : Option (List Char) :=
    match cs with
    | 'b' :: '"' :: r => cookedByteString (cs.length + 1) r
    | 'b' :: 'r' :: r => rawLiteral .bytes r
    | 'c' :: '"' :: r => cookedCString (cs.length + 1) r
    | 'c' :: 'r' :: r => rawLiteral .cText r
    | 'b' :: '\'' :: r => byteLiteral r
    | '\'' :: r => charLiteral r
    | _ => (floatLiteral cs).orElse fun _ => intLiteral cs

/-! ## Punctuation, comments and blanks -/

/-- A punctuation character and the rest; the `/` of a comment is none. -/
def punctChar (cs : List Char) : Option (Char × List Char) :=
  match cs with
  | '/' :: '/' :: _ => none
  | '/' :: '*' :: _ => none
  | c :: r => if isPunctChar c then some (c, r) else none
  | [] => none

/-- A punctuation token and the rest. An apostrophe must start a lifetime: an identifier
follows, and neither an apostrophe nor (after a name that is not raw) a `#` after that. -/
def punct (cs : List Char) : Option (Token × List Char) := do
  let (c, rest) ← punctChar cs
  if c = '\'' then
    let (_, after) ← identAny rest
    if after.head? = some '\'' || (after.head? = some '#' && !(rest.take 2 = ['r', '#'])) then
      none
    else some (.punct '\'' .joint, rest)
  else
    let spacing := if (punctChar rest).isSome then Spacing.joint else Spacing.alone
    some (.punct c spacing, rest)

/-- A leaf token (a literal, punctuation or an identifier) and the rest. -/
def leaf (cs : List Char) : Option (Token × List Char) :=
  match literalRest cs with
  | some rest => some (.literal (String.ofList (cs.take (cs.length - rest.length))), rest)
  | none => (punct cs).orElse fun _ => ident cs

/-- A block comment from its `/*`, nested comments included: its text and the rest. -/
def blockComment (cs : List Char) : Option (List Char × List Char) :=
  go 0 [] cs
where
  /-- Scans at a nesting depth, with the text so far reversed. -/
  go : Nat → List Char → List Char → Option (List Char × List Char)
    | depth, acc, '/' :: '*' :: r => go (depth + 1) ('*' :: '/' :: acc) r
    | depth, acc, '*' :: '/' :: r =>
      if depth = 1 then some (('/' :: '*' :: acc).reverse, r)
      else go (depth - 1) ('/' :: '*' :: acc) r
    | depth, acc, c :: r => go depth (c :: acc) r
    | _, _, [] => none

/-- A line up to its end: the text (without a carriage return before the line feed) and
the rest, which starts at the line feed. -/
def lineText : List Char → List Char × List Char
  | [] => ([], [])
  | '\n' :: r => ([], '\n' :: r)
  | '\r' :: '\n' :: r => ([], '\n' :: r)
  | c :: r =>
    let (line, rest) := lineText r
    (c :: line, rest)

/-- Whether every carriage return is followed by a line feed. -/
def noBareReturn : List Char → Bool
  | [] => true
  | '\r' :: '\n' :: r => noBareReturn r
  | '\r' :: _ => false
  | _ :: r => noBareReturn r

/-- The rest after blanks and comments that are not doc comments. -/
def skipBlanks : Nat → List Char → List Char
  | 0, cs => cs
  | f + 1, cs =>
    match cs with
    | '/' :: '/' :: r =>
      let isDoc := (r.head? = some '/' && r.take 2 != ['/', '/']) || r.head? = some '!'
      if isDoc then cs else skipBlanks f (lineText r).2
    | '/' :: '*' :: '*' :: '/' :: r => skipBlanks f r
    | '/' :: '*' :: r =>
      let isDoc := (r.head? = some '*' && r.take 2 != ['*', '*']) || r.head? = some '!'
      if isDoc then cs
      else
        match blockComment cs with
        | some (_, rest) => skipBlanks f rest
        | none => cs
    | c :: r => if isBlank c then skipBlanks f r else cs
    | [] => []

/-- The string literal of a doc comment's text: escaped for debug text, except that a
single quote stands for itself and NUL is `\0`, or `\x00` before an octal digit. -/
def docLiteral (text : List Char) : String :=
  "\"" ++ String.ofList (escape text) ++ "\""
where
  /-- The escaped characters. -/
  escape : List Char → List Char
    | [] => []
    | c :: r =>
      let here :=
        if c.toNat = 0 then
          if (r.head?.map fun d => '0' ≤ d && d ≤ '7').getD false then "\\x00".toList
          else "\\0".toList
        else if c = '\'' then [c]
        else Text.quoteChar c
      here ++ escape r

/-- The text of a doc comment, whether it is inner, and the rest. -/
def docText (cs : List Char) : Option ((List Char × Bool) × List Char) :=
  match cs with
  | '/' :: '/' :: '!' :: r => let (t, rest) := lineText r; some ((t, true), rest)
  | '/' :: '*' :: '!' :: _ =>
    (blockComment cs).map fun (t, rest) => ((((t.drop 3).dropLast).dropLast, true), rest)
  | '/' :: '/' :: '/' :: r =>
    if r.head? = some '/' then none else let (t, rest) := lineText r; some ((t, false), rest)
  | '/' :: '*' :: '*' :: r =>
    if r.head? = some '*' then none
    else (blockComment cs).map fun (t, rest) => ((((t.drop 3).dropLast).dropLast, false), rest)
  | _ => none

/-- The tokens of a doc comment and the rest; a bare carriage return in it refuses. -/
def docComment (cs : List Char) : Option (Option (List Token × List Char)) :=
  match docText cs with
  | none => some none
  | some ((text, inner), rest) =>
    if !noBareReturn text then none
    else
      let body := Token.group .bracket
        [.ident "doc", .punct '=' .alone, .literal (docLiteral text)]
      let bang : List Token := if inner then [.punct '!' .alone] else []
      some (some ([.punct '#' .alone] ++ bang ++ [body], rest))

/-- The delimiter that a character opens. -/
def opening (c : Char) : Option Delimiter :=
  if c = '(' then some .paren else if c = '[' then some .bracket
  else if c = '\x7b' then some .brace else none

/-- The delimiter that a character closes. -/
def closing (c : Char) : Option Delimiter :=
  if c = ')' then some .paren else if c = ']' then some .bracket
  else if c = '\x7d' then some .brace else none

/-- Reads token trees: `stack` holds, innermost first, each stack group's delimiter and the
tokens before it (reversed); `acc` holds the current tokens, reversed. -/
def trees : Nat → List Char → List (Delimiter × List Token) → List Token →
    Option (List Token)
  | 0, _, _, _ => none
  | f + 1, input, stack, acc =>
    let cs := skipBlanks (input.length + 1) input
    match docComment cs with
    | none => none
    | some (some (ts, rest)) => trees f rest stack (ts.reverse ++ acc)
    | some none =>
      match cs with
      | [] => if stack.isEmpty then some acc.reverse else none
      | c :: rest =>
        match opening c, closing c with
        | some d, _ => trees f rest ((d, acc) :: stack) []
        | none, some d =>
          match stack with
          | (d', outer) :: more =>
            if d' = d then trees f rest more (.group d acc.reverse :: outer) else none
          | [] => none
        | none, none =>
          match leaf cs with
          | some (t, after) => trees f after stack (t :: acc)
          | none => none

end Lex

/-- The token trees of source text, after a byte order mark if it starts with one; none
when the text is no sequence of tokens with balanced delimiters. -/
def tokenize (src : String) : Option (List Token) :=
  let cs := match src.toList with
    | c :: rest => if c.toNat = 0xFEFF then rest else c :: rest
    | [] => []
  Lex.trees (cs.length + 2) cs [] []

end Derive

end RecordQuery
