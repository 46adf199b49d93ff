import RecordQuery.Derive.Grammar.Meta
import RecordQuery.Derive.Grammar.Patterns

/-!
# Blocks and statements

A block is a list of statements in braces: `let` bindings (with a type, a value and an
`else` block), items, macro calls in braces, and expressions, with or without a `;`. An
expression that ends with a block (`if`, `match`, a loop, a block) may stand without `;`
before the next statement; any other expression, and a macro call in parentheses or
brackets, needs one. A lone `;` is an empty statement.

Items are read in detail only for `const` and `static`; any other item (a function, a
type, an `impl`) is read up to its `;` or its body in braces and written back with its
operators joined.
-/

namespace RecordQuery

namespace Derive

namespace Grammar

open Tokens

/-- Reads a path of words separated by `::`, without arguments. -/
def modStylePath : Reader (List Token) := do
  let lead ← Reader.eatOp "::"
  let (segments, ts, trailing) ← metaSegments (← Reader.steps)
  if segments.isEmpty then Reader.ident
  else if trailing then Reader.fail "expected path segment after `::`"
  else return lead.getD [] ++ ts

/-- Reads a visibility, if one comes next: `pub`, `pub(crate)`, `pub(self)`,
`pub(super)` or `pub(in path)`. Parentheses holding anything else are left alone. -/
def visibility : Reader (List Token) := do
  match ← Reader.eatWord "pub" with
  | none => return []
  | some p =>
    match ← Reader.tokens with
    | .group .paren [.ident w] :: _ =>
      if w = "crate" || w = "self" || w = "super" then
        let _ ← Reader.take 1
        return p ++ [.group .paren [.ident w]]
      else return p
    | .group .paren (.ident "in" :: _) :: _ =>
      let inner ← Reader.delimited .paren do
        let i ← Reader.word "in"
        return i ++ (← modStylePath)
      return p ++ [.group .paren inner]
    | _ => return p

/-- Whether a function signature comes next: `const`, `async`, `unsafe` and an ABI, each
optional, before `fn`. -/
def startsSignature (ts : List Token) : Bool :=
  let ts := if startsWord "const" ts then skipTree ts else ts
  let ts := if startsWord "async" ts then skipTree ts else ts
  let ts := if startsWord "unsafe" ts then skipTree ts else ts
  let ts := if startsWord "extern" ts then
      let after := skipTree ts
      if startsString after then skipTree after else after
    else ts
  startsWord "fn" ts

/-- Whether a statement that starts with the tokens is an item. -/
def startsItem (ts : List Token) (itemMacro : Bool) : Bool :=
  let second := skipTree ts
  let third := skipTrees 2 ts
  startsWord "pub" ts || (startsWord "crate" ts && !startsOp [':', ':'] second) ||
    startsWord "extern" ts || startsWord "use" ts ||
    (startsWord "static" ts && (startsWord "mut" second ||
      (startsIdent second && !(startsWord "async" second &&
        (startsWord "move" third || startsOp ['|'] third))))) ||
    (startsWord "const" ts && !(startsGroup .brace second || startsWord "static" second ||
      (startsWord "async" second && !(startsWord "unsafe" third || startsWord "extern" third ||
        startsWord "fn" third)) || startsWord "move" second || startsOp ['|'] second)) ||
    (startsWord "unsafe" ts && !startsGroup .brace second) ||
    (startsWord "async" ts && (startsWord "unsafe" second || startsWord "extern" second ||
      startsWord "fn" second)) ||
    startsWord "fn" ts || startsWord "mod" ts || startsWord "type" ts ||
    startsWord "struct" ts || startsWord "enum" ts ||
    (startsWord "union" ts && startsIdent second) ||
    (startsWord "auto" ts && startsWord "trait" second) || startsWord "trait" ts ||
    (startsWord "default" ts && (startsWord "impl" second || startsWord "unsafe" second)) ||
    startsWord "impl" ts || startsWord "macro" ts || itemMacro

/-- Takes the tokens of an item not read in detail: up to its `;`, or up to its body in
braces (a `use` item always up to its `;`). -/
def itemTokens (isUse : Bool) : Nat → Reader (List Token)
  | 0 => pure []
  | n + 1 => do
    match ← Reader.tokens with
    | [] => Reader.fail "expected `;`"
    | t :: _ =>
      let _ ← Reader.take 1
      match t with
      | .punct ';' _ => return [t]
      | .group .brace _ => if isUse then return t :: (← itemTokens isUse n) else return [t]
      | _ => return t :: (← itemTokens isUse n)

/-- Reads an item after its attributes; `attrs` are their tokens, and `source` the tokens
from the start of the statement, which an item kept as written gives back. -/
def itemStep (r : Goal → Reader Phrase) (attrs : List Token) : Reader (List Token) := do
  let start ← Reader.tokens
  let vis ← visibility
  let ts ← Reader.tokens
  let asWritten : Reader (List Token) := do
    let rest ← Reader.tokens
    return attrs ++ start.take (start.length - rest.length)
  if startsWord "const" ts && !startsSignature ts then
    let c ← Reader.word "const"
    let name ← if (← Reader.peekWith startsIdent) || (← Reader.peekWord "_") then Reader.anyIdent
      else Reader.expectedOneOf ["identifier", "`_`"]
    if ← Reader.peekOp "<" then
      let _ ← itemTokens false (← Reader.steps)
      return canonical (Tokens.count (← asWritten) + 1) (← asWritten)
    let colon ← Reader.op ":"
    let ty ← tokensOf r (.type true)
    let value ← match ← Reader.eatOp "=" with
      | some eq => pure (some (eq ++ (← tokensOf r (.expr true))))
      | none => pure none
    if ← Reader.peekWord "where" then
      let _ ← itemTokens false (← Reader.steps)
      return canonical (Tokens.count (← asWritten) + 1) (← asWritten)
    let semi ← Reader.op ";"
    match value with
    | some v => return attrs ++ vis ++ c ++ name ++ colon ++ ty ++ v ++ semi
    | none => asWritten
  else if startsWord "static" ts then
    let s ← Reader.word "static"
    let m ← Reader.eatWord "mut"
    let name ← Reader.ident
    if ← Reader.peekOp "=" then
      let _ ← Reader.op "="
      let _ ← r (.expr true)
      let _ ← Reader.op ";"
      return ← asWritten
    let colon ← Reader.op ":"
    let ty ← tokensOf r (.type true)
    if ← Reader.peekOp ";" then
      let _ ← Reader.op ";"
      return ← asWritten
    let eq ← Reader.op "="
    let e ← tokensOf r (.expr true)
    let semi ← Reader.op ";"
    return attrs ++ vis ++ s ++ m.getD [] ++ name ++ colon ++ ty ++ eq ++ e ++ semi
  else
    let _ ← itemTokens (startsWord "use" ts) (← Reader.steps)
    let written ← asWritten
    return canonical (Tokens.count written + 1) written

/-- Whether an expression's tokens end with a block in braces. -/
def endsWithBrace (ts : List Token) : Bool :=
  match ts.getLast? with
  | some (.group .brace _) => true
  | _ => false

/-- Reads a `let` statement after its attributes. -/
def localStep (r : Goal → Reader Phrase) : Reader (List Token) := do
  let l ← Reader.word "let"
  let p ← tokensOf r (.pattern false)
  let ty ← match ← Reader.eatOp ":" with
    | some c => pure (c ++ (← tokensOf r (.type true)))
    | none => pure []
  let init ← match ← Reader.eatOp "=" with
    | some eq =>
      let e ← tokensOf r (.expr true)
      if !endsWithBrace e && (← Reader.peekWord "else") then
        let el ← Reader.word "else"
        pure (eq ++ e ++ el ++ (← tokensOf r (.block false)))
      else pure (eq ++ e)
    | none => pure []
  let semi ← Reader.op ";"
  return l ++ p ++ ty ++ init ++ semi

/-- Reads a statement; its form says whether another statement may follow it only after
a `;`. -/
def statementStep (r : Goal → Reader Phrase) : Reader Phrase := do
  let attrs ← tokensOf r .outerAttrs
  let ahead ← Reader.attempt do
    let _ ← modStylePath
    Reader.tokens
  let (itemMacro, braceMacro) : Bool × Bool := match ahead with
    | some rest =>
      if startsOp ['!'] rest then
        let after := skipTree rest
        let third := skipTree after
        if startsIdent after || startsWord "try" after then (true, false)
        else if startsGroup .brace after &&
            !((startsOp ['.'] third && !startsOp ['.', '.'] third) || startsOp ['?'] third) then
          (false, true)
        else (false, false)
      else (false, false)
    | none => (false, false)
  if braceMacro then
    let p ← modStylePath
    let bang ← Reader.op "!"
    let g ← Reader.anyGroup
    let semi ← Reader.eatOp ";"
    return ⟨attrs ++ p ++ bang ++ [g] ++ semi.getD [], .statement false⟩
  let ts ← Reader.tokens
  if startsWord "let" ts then
    return ⟨attrs ++ (← localStep r), .statement false⟩
  if startsItem ts itemMacro then
    return ⟨← itemStep r attrs, .statement false⟩
  let e ← r .exprEarly
  let semi ← Reader.eatOp ";"
  let needsSemi := semi.isNone && match e.form with
    | .blockLike => false
    | .macroCall braced => !braced
    | _ => true
  let kept := match e.form with
    | .verbatim => []
    | _ => attrs
  return ⟨kept ++ e.tokens ++ semi.getD [], .statement needsSemi⟩

/-- Reads statements to the end of a block. -/
def statements (r : Goal → Reader Phrase) : Nat → Reader (List Token)
  | 0 => pure []
  | n + 1 => do
    let semis ← Reader.repeatSome (← Reader.steps) (Reader.eatOp ";")
    if ← Reader.atEnd then return semis.flatten
    let s ← r .statement
    let needsSemi := match s.form with
      | .statement b => b
      | _ => false
    if ← Reader.atEnd then return semis.flatten ++ s.tokens
    if needsSemi then Reader.failHere "unexpected token, expected `;`"
    return semis.flatten ++ s.tokens ++ (← statements r n)

/-- Reads a block in braces; with `inner`, inner attributes may open it. -/
def blockStep (r : Goal → Reader Phrase) (inner : Bool) : Reader Phrase := do
  let contents ← Reader.delimited .brace do
    let attrs ← if inner then tokensOf r .innerAttrs else pure []
    return attrs ++ (← statements r (← Reader.steps))
  return ⟨[.group .brace contents], .blockLike⟩

end Grammar

end Derive

end RecordQuery
