import RecordQuery.Derive.Grammar.Exprs

/-!
# Patterns

The grammar of patterns: bindings (`ref mut x @ p`), `_`, literals and ranges (`1..=9`,
`'a'..`, the old `1...9` written back as `1..=9`), paths, tuple structs, structs with field
patterns and `..`, tuples, slices, references, `box` patterns, macro calls, and
alternatives separated by `|`.

A negative literal in a pattern is one literal (`-1`), unlike in an expression, where the
minus sign is an operator.
-/

namespace RecordQuery

namespace Derive

namespace Grammar

open Tokens

/-- Whether a range bound is absent: the pattern ends before the tokens. -/
def boundAbsent (ts : List Token) : Bool :=
  ts.isEmpty || startsOp ['|'] ts || startsOp ['='] ts ||
    (startsOp [':'] ts && !startsOp [':', ':'] ts) || startsOp [','] ts || startsOp [';'] ts ||
    startsWord "if" ts

/-- Reads a bound of a range pattern, if there is one: a literal, a path or a const
block. -/
def rangeBound (r : Goal → Reader Phrase) : Reader (Option (List Token)) := do
  let ts ← Reader.tokens
  if boundAbsent ts then return none
  if startsLiteral ts then
    let t ← Reader.literal
    return some [litToken t]
  else if startsIdent ts || startsOp [':', ':'] ts || startsOp ['<'] ts || startsWord "self" ts ||
      startsWord "Self" ts || startsWord "super" ts || startsWord "crate" ts then
    let attrs ← tokensOf r .outerAttrs
    return some (attrs ++ (← tokensOf r (.qpath true)))
  else if startsWord "const" ts then
    return some ((← Reader.word "const") ++ (← tokensOf r (.block true)))
  else Reader.expectedOneOf ["literal", "identifier", "`::`", "`<`", "`self`", "`Self`",
    "`super`", "`crate`", "`const`"]

/-- Reads a range operator of a pattern, the old `...` standing for `..=`; gives back
whether it is `..=`. -/
def patternLimits : Reader (List Token × Bool) := do
  let ts ← Reader.tokens
  if startsOp ['.', '.', '='] ts then return (← Reader.op "..=", true)
  if startsOp ['.', '.', '.'] ts then
    let _ ← Reader.op "..."
    return (Token.operator ['.', '.', '='], true)
  if startsOp ['.', '.'] ts then return (← Reader.op "..", false)
  Reader.expectedOneOf ["`..=`"]

/-- Reads the range operator and end of a range pattern after its start. -/
def rangeAfter (r : Goal → Reader Phrase) (start : List Token) : Reader Phrase := do
  let (l, closed) ← patternLimits
  match ← rangeBound r with
  | some e => return .ofTokens (start ++ l ++ e)
  | none =>
    if closed then Reader.fail "expected range upper bound"
    else return ⟨start ++ l, .partialRange⟩

/-- Reads patterns separated by commas to the end, a trailing comma allowed; gives back
their phrases and the tokens. -/
def patternList (r : Goal → Reader Phrase) : Nat → Reader (List Phrase × List Token)
  | 0 => pure ([], [])
  | n + 1 => do
    if ← Reader.atEnd then return ([], [])
    let p ← r (.pattern true)
    if ← Reader.atEnd then return ([p], p.tokens)
    let c ← Reader.op ","
    let (ps, more) ← patternList r n
    return (p :: ps, p.tokens ++ c ++ more)

/-- Reads a field pattern of a struct pattern: `name: p`, `0: p`, or a binding
shorthand (`ref mut x`, `box x`). -/
def fieldPattern (r : Goal → Reader Phrase) : Reader (List Token) := do
  let ((b, rf, m, member, named), source) ← Reader.written do
    let b ← Reader.eatWord "box"
    let rf ← Reader.eatWord "ref"
    let m ← Reader.eatWord "mut"
    let (member, named) ← if b.isSome || rf.isSome || m.isSome then
        pure (← Reader.ident, true)
      else member
    return (b, rf, m, member, named)
  if (b.isNone && rf.isNone && m.isNone && (← Reader.peekOp ":")) || !named then
    let c ← Reader.op ":"
    return member ++ c ++ (← tokensOf r (.pattern true))
  if b.isSome then return source
  return rf.getD [] ++ m.getD [] ++ member

/-- Reads the fields of a struct pattern, and a rest `..`. -/
def fieldPatterns (r : Goal → Reader Phrase) : Nat → Reader (List Token)
  | 0 => pure []
  | n + 1 => do
    if ← Reader.atEnd then return []
    let attrs ← tokensOf r .outerAttrs
    if ← Reader.peekOp ".." then return attrs ++ (← Reader.op "..")
    let f ← fieldPattern r
    if ← Reader.atEnd then return attrs ++ f
    let c ← Reader.op ","
    return attrs ++ f ++ c ++ (← fieldPatterns r n)

/-- Reads a pattern that starts with a path: a path, a macro call, a struct or tuple
struct pattern, or a range. -/
def pathPattern (r : Goal → Reader Phrase) : Reader Phrase := do
  let q ← r (.qpath true)
  match q.form with
  | .path s =>
    if !s.qself && (← Reader.peekOp "!") && !(← Reader.peekOp "!=") && s.plain then
      let bang ← Reader.op "!"
      return .ofTokens (q.tokens ++ bang ++ [← Reader.anyGroup])
    let ts ← Reader.tokens
    if startsGroup .brace ts then
      let inner ← Reader.delimited .brace do fieldPatterns r (← Reader.steps)
      return .ofTokens (q.tokens ++ [.group .brace inner])
    else if startsGroup .paren ts then
      let inner ← Reader.delimited .paren do
        return (← patternList r (← Reader.steps)).2
      return .ofTokens (q.tokens ++ [.group .paren inner])
    else if startsOp ['.', '.'] ts then rangeAfter r q.tokens
    else return q
  | _ => return q

/-- Reads a binding: `ref`, `mut`, a name and a subpattern after `@`. -/
def bindingPattern (r : Goal → Reader Phrase) : Reader Phrase := do
  let rf ← Reader.eatWord "ref"
  let m ← Reader.eatWord "mut"
  let name ← if ← Reader.peekWord "self" then Reader.anyIdent else Reader.ident
  match ← Reader.eatOp "@" with
  | some a => return .ofTokens (rf.getD [] ++ m.getD [] ++ name ++ a ++ (← tokensOf r (.pattern false)))
  | none => return .ofTokens (rf.getD [] ++ m.getD [] ++ name)

/-- Reads a pattern in parentheses or a tuple pattern. -/
def parenPattern (r : Goal → Reader Phrase) : Reader Phrase := do
  let inner ← Reader.delimited .paren do
    let (_, ts) ← patternList r (← Reader.steps)
    return ts
  return .ofTokens [.group .paren inner]

/-- Reads a slice pattern; a range without a start or an end needs parentheses there. -/
def slicePattern (r : Goal → Reader Phrase) : Reader Phrase := do
  let inner ← Reader.delimited .bracket do go (← Reader.steps)
  return .ofTokens [.group .bracket inner]
where
  /-- Reads the elements. -/
  go : Nat → Reader (List Token)
    | 0 => pure []
    | n + 1 => do
      if ← Reader.atEnd then return []
      let p ← r (.pattern true)
      match p.form with
      | .partialRange =>
        Reader.failHere "range pattern is not allowed unparenthesized inside slice pattern"
      | _ => pure ()
      if ← Reader.atEnd then return p.tokens
      let c ← Reader.op ","
      return p.tokens ++ c ++ (← go n)

/-- Reads a range without a start, or a rest `..`. -/
def halfOpenPattern (r : Goal → Reader Phrase) : Reader Phrase := do
  let ts ← Reader.tokens
  let (l, closed) ← if startsOp ['.', '.', '='] ts then pure (← Reader.op "..=", true)
    else pure (← Reader.op "..", false)
  match ← rangeBound r with
  | some e => return ⟨l ++ e, .partialRange⟩
  | none => if closed then Reader.fail "expected range upper bound" else return ⟨l, .rest⟩

/-- Reads one pattern, without alternatives. -/
def singlePattern (r : Goal → Reader Phrase) : Reader Phrase := do
  let ts ← Reader.tokens
  let second := skipTree ts
  if (startsIdent ts && (startsOp [':', ':'] second || startsOp ['!'] second ||
        startsGroup .brace second || startsGroup .paren second || startsOp ['.', '.'] second)) ||
      (startsWord "self" ts && startsOp [':', ':'] second) || startsOp [':', ':'] ts ||
      startsOp ['<'] ts || startsWord "Self" ts || startsWord "super" ts ||
      startsWord "crate" ts then
    pathPattern r
  else if startsWord "_" ts then return .ofTokens (← Reader.take 1)
  else if startsWord "box" ts then
    let (_, source) ← Reader.written do
      let _ ← Reader.word "box"
      r (.pattern false)
    return ⟨source, .verbatim⟩
  else if startsOp ['-'] ts || startsLiteral ts || startsWord "const" ts then
    match ← rangeBound r with
    | some start =>
      if ← Reader.peekOp ".." then rangeAfter r start else return .ofTokens start
    | none => Reader.expectedOneOf ["literal", "identifier", "`::`", "`<`", "`self`",
        "`Self`", "`super`", "`crate`", "`const`"]
  else if startsWord "ref" ts || startsWord "mut" ts || startsWord "self" ts ||
      startsIdent ts then
    bindingPattern r
  else if startsOp ['&'] ts then
    let amp ← Reader.op "&"
    let m ← Reader.eatWord "mut"
    return .ofTokens (amp ++ m.getD [] ++ (← tokensOf r (.pattern false)))
  else if startsGroup .paren ts then parenPattern r
  else if startsGroup .bracket ts then slicePattern r
  else if startsOp ['.', '.'] ts && !startsOp ['.', '.', '.'] ts then halfOpenPattern r
  else
    let dots := if startsOp ['.', '.'] ts then [] else ["`..`"]
    Reader.expectedOneOf (["identifier", "`::`", "`<`", "`_`", "literal", "`const`", "`ref`",
      "`mut`", "`&`", "parentheses", "square brackets"] ++ dots ++ ["`const`"])

/-- Reads a pattern; with `multi`, a leading `|` and alternatives separated by `|`. -/
def patternStep (r : Goal → Reader Phrase) (multi : Bool) : Reader Phrase := do
  if !multi then return ← singlePattern r
  let lead ← Reader.eatOp "|"
  let first ← singlePattern r
  let more ← Reader.repeatSome (← Reader.steps) do
    let ts ← Reader.tokens
    if startsOp ['|'] ts && !startsOp ['|', '|'] ts && !startsOp ['|', '='] ts then
      let bar ← Reader.op "|"
      return some (bar ++ (← singlePattern r).tokens)
    else return none
  if lead.isNone && more.isEmpty then return first
  return .ofTokens (lead.getD [] ++ first.tokens ++ more.flatten)

end Grammar

end Derive

end RecordQuery
