import RecordQuery.Derive.Reader

/-!
# Attributes and their meta items

An attribute `#[...]` holds one meta item: a bare path (`skip`), a path with a delimited
argument list (`query(rename = "x")`), or a path, `=` and a value (`doc = "text"`). A doc
comment is the attribute `#[doc = "..."]`.

The value after `=` is one lone literal or some other expression; only whether it is a
literal matters here, so any other expression is kept as its tokens.

String literals read back to their text: escapes are resolved in quoted literals and kept
in raw ones, and a suffix after the closing quote is no part of the text.
-/

namespace RecordQuery

namespace Derive

/-- A path in a meta item: words separated by `::`, perhaps after a leading `::`. -/
structure MetaPath where
  leadingColon : Bool
  segments : List String
deriving DecidableEq

/-- Whether a path is the single word `w`. -/
def MetaPath.isIdent (p : MetaPath) (w : String) : Bool :=
  !p.leadingColon && p.segments == [w]

/-- The text of a path. -/
def MetaPath.toText (p : MetaPath) : String :=
  (if p.leadingColon then "::" else "") ++ "::".intercalate p.segments

/-- The value after `=` in a meta item. -/
inductive MetaValue where
  /-- A lone literal, as written. -/
  | literal (text : String)
  /-- Any other expression, as its tokens. -/
  | expression (tokens : List Token)

/-- A meta item. -/
inductive Meta where
  /-- A bare path. -/
  | word (p : MetaPath)
  /-- A path and the contents of the delimited group after it. -/
  | list (p : MetaPath) (args : List Token)
  /-- A path, `=` and a value. -/
  | nameValue (p : MetaPath) (value : MetaValue)

/-- The path of a meta item. -/
def Meta.name : Meta → MetaPath
  | .word p => p
  | .list p _ => p
  | .nameValue p _ => p

/-- An attribute; an inner one is written `#![...]`. -/
structure Attribute where
  inner : Bool
  item : Meta

/-- The first attribute whose path is the word `w`. -/
def Attribute.find? (attrs : List Attribute) (w : String) : Option Attribute :=
  attrs.find? fun a => a.item.name.isIdent w

namespace Literal

/-- The value of a hex digit. -/
def hexDigit? (c : Char) : Option Nat :=
  if '0' ≤ c && c ≤ '9' then some (c.toNat - '0'.toNat)
  else if 'a' ≤ c && c ≤ 'f' then some (c.toNat - 'a'.toNat + 10)
  else if 'A' ≤ c && c ≤ 'F' then some (c.toNat - 'A'.toNat + 10)
  else none

/-- The number written by hex digits, underscores skipped. -/
def hexValue (cs : List Char) : Nat :=
  cs.foldl (fun n c => match hexDigit? c with | some d => 16 * n + d | none => n) 0

/-- Whether a character is skipped after a backslash at the end of a line. -/
def isLineBlank (c : Char) : Bool := c = ' ' || c = '\t' || c = '\n' || c = '\r'

/-- The text of a quoted literal's body up to its closing quote, escapes resolved. -/
def cookedValue : Nat → List Char → List Char
  | 0, _ => []
  | _ + 1, [] => []
  | _ + 1, '"' :: _ => []
  | fuel + 1, '\r' :: '\n' :: rest => '\n' :: cookedValue fuel rest
  | fuel + 1, '\\' :: c :: rest =>
    match c with
    | 'n' => '\n' :: cookedValue fuel rest
    | 'r' => '\r' :: cookedValue fuel rest
    | 't' => '\t' :: cookedValue fuel rest
    | '0' => Char.ofNat 0 :: cookedValue fuel rest
    | 'x' => Char.ofNat (hexValue (rest.take 2)) :: cookedValue fuel (rest.drop 2)
    | 'u' =>
      let digits := (rest.drop 1).takeWhile (· ≠ '\x7d')
      Char.ofNat (hexValue digits) ::
        cookedValue fuel (((rest.drop 1).dropWhile (· ≠ '\x7d')).drop 1)
    | '\n' => cookedValue fuel (rest.dropWhile isLineBlank)
    | '\r' => cookedValue fuel (rest.dropWhile isLineBlank)
    | other => other :: cookedValue fuel rest
  | fuel + 1, c :: rest => c :: cookedValue fuel rest

/-- The text of a string literal, quoted or raw, its suffix dropped; none for any other
literal. -/
def stringValue? (text : String) : Option String :=
  match text.toList with
  | '"' :: rest => some (String.ofList (cookedValue (rest.length + 1) rest))
  | 'r' :: rest =>
    let hashes := (rest.takeWhile (· = '#')).length
    let body := (rest.drop hashes).drop 1
    let close := '"' :: List.replicate hashes '#'
    some (String.ofList (go close body))
  | _ => none
where
  /-- The characters before the first `close`. -/
  go (close : List Char) : List Char → List Char
    | [] => []
    | c :: cs => if close.isPrefixOf (c :: cs) then [] else c :: go close cs

end Literal

end Derive

end RecordQuery
