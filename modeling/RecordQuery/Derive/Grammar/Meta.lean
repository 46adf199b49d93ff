import RecordQuery.Derive.Grammar.Types

/-!
# Attributes and meta items

An outer attribute is `#[meta]`, an inner one `#![meta]`. A meta item starts with a path of
words (or the single word `unsafe`); a delimited group after it is its argument list,
kept as written; `=` after it is followed by a value, which is a lone literal (a minus sign
and a number count as one) or an expression. An attribute may not stand where the value
should.
-/

namespace RecordQuery

namespace Derive

namespace Grammar

open Tokens

/-- Whether the tokens start with a word that may be a segment of a meta path. -/
def startsSegment (ts : List Token) : Bool :=
  startsIdent ts || startsWord "super" ts || startsWord "self" ts || startsWord "Self" ts ||
    startsWord "crate" ts

/-- Reads the segments of a meta path, each after the first behind a `::`; gives back the
names, their tokens, and whether a `::` ended them. -/
def metaSegments : Nat → Reader (List String × List Token × Bool)
  | 0 => pure ([], [], false)
  | fuel + 1 => do
    if !(← Reader.peekWith startsSegment) then return ([], [], false)
    match ← Reader.anyIdent with
    | [Token.ident s] =>
      match ← Reader.eatOp "::" with
      | none => return ([s], [.ident s], false)
      | some c =>
        let (more, ts, trailing) ← metaSegments fuel
        if more.isEmpty then return ([s], [.ident s] ++ c, true)
        else return (s :: more, [.ident s] ++ c ++ ts, trailing)
    | _ => return ([], [], false)

/-- Reads the path of a meta item. -/
def metaPath : Reader (MetaPath × List Token) := do
  if let some u ← Reader.eatWord "unsafe" then return (⟨false, ["unsafe"]⟩, u)
  let lead ← Reader.eatOp "::"
  let (segments, ts, trailing) ← metaSegments (← Reader.steps)
  if segments.isEmpty then
    let _ ← Reader.ident
    Reader.fail "expected identifier"
  else if trailing then Reader.fail "expected path segment after `::`"
  else return (⟨lead.isSome, segments⟩, lead.getD [] ++ ts)

/-- Reads a meta item. -/
def metaStep (r : Goal → Reader Phrase) : Reader Phrase := do
  let (p, pathTokens) ← metaPath
  let ts ← Reader.tokens
  if startsAnyGroup ts then
    let g ← Reader.anyGroup
    let args := match g with
      | .group _ inner => inner
      | _ => []
    return ⟨pathTokens ++ [g], .metaItem (.list p args)⟩
  match ← Reader.eatOp "=" with
  | none => return ⟨pathTokens, .metaItem (.word p)⟩
  | some eq =>
    let lone ← Reader.attempt do
      let t ← Reader.literal
      if ← Reader.atEnd then return t else Reader.failHere ""
    match lone with
    | some t =>
      let _ ← Reader.literal
      return ⟨pathTokens ++ eq ++ [litToken t], .metaItem (.nameValue p (.literal t))⟩
    | none =>
      if (← Reader.peekOp "#") && (← Reader.peekAfter 1 (startsGroup .bracket)) then
        Reader.fail "unexpected attribute inside of attribute"
      let e ← r (.expr true)
      let value := match e.form with
        | .lit t => MetaValue.literal t
        | _ => .expression e.tokens
      return ⟨pathTokens ++ eq ++ e.tokens, .metaItem (.nameValue p value)⟩

/-- Reads meta items separated by commas to the end, a trailing comma allowed. -/
def metaItems (r : Goal → Reader Phrase) : Nat → Reader (List Meta)
  | 0 => pure []
  | n + 1 => do
    if ← Reader.atEnd then return []
    let m ← r .metaItem
    let item := match m.form with
      | .metaItem x => [x]
      | _ => []
    if ← Reader.atEnd then return item
    let _ ← Reader.op ","
    return item ++ (← metaItems r n)

/-- Reads one attribute; an inner one has `!` after its `#`. -/
def attributeItem (r : Goal → Reader Phrase) (inner : Bool) : Reader (List Attribute × List Token) := do
  let pound ← Reader.op "#"
  let bang ← if inner then Reader.op "!" else pure []
  let m ← Reader.delimited .bracket (r .metaItem)
  let attrs := match m.form with
    | .metaItem x => [⟨inner, x⟩]
    | _ => []
  return (attrs, pound ++ bang ++ [.group .bracket m.tokens])

/-- Reads the outer attributes that come next. -/
def outerAttrs (r : Goal → Reader Phrase) : Nat → Reader (List Attribute × List Token)
  | 0 => pure ([], [])
  | n + 1 => do
    if !(← Reader.peekOp "#") then return ([], [])
    let (a, ts) ← attributeItem r false
    let (more, rest) ← outerAttrs r n
    return (a ++ more, ts ++ rest)

/-- Reads the inner attributes that come next. -/
def innerAttrs (r : Goal → Reader Phrase) : Nat → Reader (List Attribute × List Token)
  | 0 => pure ([], [])
  | n + 1 => do
    if !((← Reader.peekOp "#") && (← Reader.peekAfter 1 (startsOp ['!']))) then return ([], [])
    let (a, ts) ← attributeItem r true
    let (more, rest) ← innerAttrs r n
    return (a ++ more, ts ++ rest)

end Grammar

end Derive

end RecordQuery
