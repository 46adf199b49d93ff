import RecordQuery.Derive.Grammar.Types

/-!
# Expressions

The grammar of expressions: literals, paths, macro calls, struct literals, tuples and
arrays, prefix operators (`-`, `!`, `*`, `&`, `&mut`), calls, method calls, field access,
indexing, `?`, binary operators by precedence, casts, ranges, assignments, closures,
blocks, and the control forms (`if`, `match`, `loop`, `while`, `for`, `break`,
`continue`, `return`, labels).

Binary operators bind by precedence, tightest first: `as`; `*` `/` `%`; `+` `-`; `<<`
`>>`; `&`; `^`; `|`; comparisons (which do not chain); `&&`; `||`; ranges; assignments.
An expression is written back token by token, an operator of several characters as one
(`1 << 2`, `x <= y`, `a += 1`).
-/

namespace RecordQuery

namespace Derive

namespace Grammar

open Tokens

/-- Whether an expression may start at the front of the tokens, so that a `break`,
`return` or `yield` has a value. -/
def canBeginExpr (ts : List Token) : Bool :=
  startsAnyIdent ts || startsGroup .paren ts || startsGroup .bracket ts ||
    startsGroup .brace ts || startsLiteral ts ||
    (startsOp ['!'] ts && !startsOp ['!', '='] ts) ||
    (startsOp ['-'] ts && !startsOp ['-', '='] ts && !startsOp ['-', '>'] ts) ||
    (startsOp ['*'] ts && !startsOp ['*', '='] ts) ||
    (startsOp ['|'] ts && !startsOp ['|', '='] ts) ||
    (startsOp ['&'] ts && !startsOp ['&', '='] ts) || startsOp ['.', '.'] ts ||
    (startsOp ['<'] ts && !startsOp ['<', '='] ts && !startsOp ['<', '<', '='] ts) ||
    startsOp [':', ':'] ts || startsLifetime ts || startsOp ['#'] ts

/-- The precedence of what comes next in an expression; `jump` when nothing continues it. -/
def peekPrecedence (ts : List Token) : Precedence :=
  match binaryOperator? ts with
  | some (_, p) => p
  | none =>
    if startsOp ['='] ts && !startsOp ['=', '>'] ts then .assign
    else if startsOp ['.', '.'] ts then .range
    else if startsWord "as" ts then .cast
    else .jump

/-- The largest tuple index. -/
def maxIndex : Nat := 4294967295

/-- The index that an integer literal's text names: its value, written in base 10. It
must have no suffix and fit in 32 bits. -/
def indexOf (text : String) : Except String String :=
  match integerParts? text with
  | some (value, "") =>
    if value ≤ maxIndex then .ok (toString value) else .error "number too large to fit in target type"
  | some _ => .error "expected unsuffixed integer"
  | none => .error "expected integer literal"

/-- Reads a member after a point: a field name or an unsuffixed integer; gives back whether
it is a name. -/
def member : Reader (List Token × Bool) := do
  let ts ← Reader.tokens
  if startsIdent ts then return (← Reader.ident, true)
  match ts with
  | .literal t :: _ =>
    if isIntegerText t then
      match indexOf t with
      | .ok digits => let _ ← Reader.take 1; return ([.literal digits], false)
      | .error e => Reader.failHere e
    else Reader.fail "expected identifier or integer"
  | _ => Reader.fail "expected identifier or integer"

/-- Reads expressions separated by commas to the end (after the first, which the caller
read), a trailing comma allowed. -/
def commaTail (r : Goal → Reader Phrase) : Nat → Reader (List Token)
  | 0 => pure []
  | n + 1 => do
    if ← Reader.atEnd then return []
    let c ← Reader.op ","
    if ← Reader.atEnd then return c
    let e ← tokensOf r (.expr true)
    return c ++ e ++ (← commaTail r n)

/-- Reads a range operator: whether it is `..` (half open). -/
def rangeLimits : Reader (List Token × Bool) := do
  let ts ← Reader.tokens
  if startsOp ['.', '.', '='] ts then return (← Reader.op "..=", false)
  if startsOp ['.', '.'] ts && !startsOp ['.', '.', '.'] ts then return (← Reader.op "..", true)
  Reader.expectedOneOf ["`..=`"]

/-- Whether a half-open range ends before the tokens. -/
def rangeEnds (allowStruct : Bool) (ts : List Token) : Bool :=
  ts.isEmpty || startsOp [','] ts || startsOp [';'] ts ||
    (startsOp ['.'] ts && !startsOp ['.', '.'] ts) || startsOp ['?'] ts ||
    startsOp ['=', '>'] ts || (!allowStruct && startsGroup .brace ts) || startsOp ['='] ts ||
    startsOp ['+'] ts || startsOp ['/'] ts || startsOp ['%'] ts || startsOp ['^'] ts ||
    startsOp ['>'] ts || startsOp ['<', '='] ts || startsOp ['!', '='] ts ||
    startsOp ['-', '='] ts || startsOp ['*', '='] ts || startsOp ['&', '='] ts ||
    startsOp ['|', '='] ts || startsOp ['<', '<', '='] ts || startsWord "as" ts

/-- Reads a range operator and its end, after the start `start`. -/
def rangeFrom (r : Goal → Reader Phrase) (start : List Token) (allowStruct : Bool) :
    Reader Phrase := do
  let (l, halfOpen) ← rangeLimits
  let e ← if halfOpen && rangeEnds allowStruct (← Reader.tokens) then pure []
    else tokensOf r (.binaryRhs allowStruct .range)
  return ⟨start ++ l ++ e, .range⟩

/-- Reads a closure argument: a pattern and perhaps its type. -/
def closureArg (r : Goal → Reader Phrase) : Reader (List Token) := do
  let attrs ← tokensOf r .outerAttrs
  let p ← r (.pattern false)
  match ← Reader.eatOp ":" with
  | some c => return attrs ++ p.tokens ++ c ++ (← tokensOf r (.type true))
  | none =>
    match p.form with
    | .verbatim => return p.tokens
    | _ => return attrs ++ p.tokens

/-- Reads a closure. -/
def closure (r : Goal → Reader Phrase) (allowStruct : Bool) : Reader Phrase := do
  let lts ← if ← Reader.peekWord "for" then tokensOf r .boundLifetimes else pure []
  let c ← Reader.eatWord "const"
  let s ← Reader.eatWord "static"
  let a ← Reader.eatWord "async"
  let m ← Reader.eatWord "move"
  let or1 ← Reader.op "|"
  let inputs ← Reader.repeatSome (← Reader.steps) do
    if ← Reader.peekOp "|" then return none
    let arg ← closureArg r
    if ← Reader.peekOp "|" then return some arg
    return some (arg ++ (← Reader.op ","))
  let or2 ← Reader.op "|"
  let front := lts ++ c.getD [] ++ s.getD [] ++ a.getD [] ++ m.getD [] ++ or1 ++
    inputs.flatten ++ or2
  match ← Reader.eatOp "->" with
  | some arrow =>
    let ty ← tokensOf r (.type true)
    let body ← tokensOf r (.block false)
    return .ofTokens (front ++ arrow ++ ty ++ body)
  | none => return .ofTokens (front ++ (← tokensOf r (.expr allowStruct)))

/-- Reads the fields of a struct literal, and a base after `..`. -/
def structFields (r : Goal → Reader Phrase) : Nat → Reader (List Token)
  | 0 => pure []
  | n + 1 => do
    if ← Reader.atEnd then return []
    if ← Reader.peekOp ".." then
      let d ← Reader.op ".."
      if ← Reader.atEnd then return d
      return d ++ (← tokensOf r (.expr true))
    let attrs ← tokensOf r .outerAttrs
    let (m, named) ← member
    let value ← if (← Reader.peekOp ":") || !named then
        pure ((← Reader.op ":") ++ (← tokensOf r (.expr true)))
      else pure []
    if ← Reader.atEnd then return attrs ++ m ++ value
    let c ← Reader.op ","
    return attrs ++ m ++ value ++ c ++ (← structFields r n)

/-- Reads an expression that starts with a path: a path, a macro call or a struct
literal. -/
def pathOrMacroOrStruct (r : Goal → Reader Phrase) (allowStruct : Bool) : Reader Phrase := do
  let q ← r (.qpath true)
  match q.form with
  | .path s =>
    if !s.qself && (← Reader.peekOp "!") && !(← Reader.peekOp "!=") && s.plain then
      let bang ← Reader.op "!"
      let g ← Reader.anyGroup
      let braced := match g with
        | .group .brace _ => true
        | _ => false
      return ⟨q.tokens ++ bang ++ [g], .macroCall braced⟩
    if allowStruct && (← Reader.peekWith (startsGroup .brace)) then
      let inner ← Reader.delimited .brace do structFields r (← Reader.steps)
      return .ofTokens (q.tokens ++ [.group .brace inner])
    return q
  | _ => return q

/-- Reads an expression in parentheses or a tuple. -/
def parenOrTuple (r : Goal → Reader Phrase) : Reader Phrase := do
  let inner ← Reader.delimited .paren do
    if ← Reader.atEnd then return []
    let first ← tokensOf r (.expr true)
    return first ++ (← commaTail r (← Reader.steps))
  return .ofTokens [.group .paren inner]

/-- Reads an array: elements, or an element, `;` and a length. -/
def arrayOrRepeat (r : Goal → Reader Phrase) : Reader Phrase := do
  let inner ← Reader.delimited .bracket do
    if ← Reader.atEnd then return []
    let first ← tokensOf r (.expr true)
    let ts ← Reader.tokens
    if ts.isEmpty || startsOp [','] ts then return first ++ (← commaTail r (← Reader.steps))
    else if startsOp [';'] ts then
      let semi ← Reader.op ";"
      return first ++ semi ++ (← tokensOf r (.expr true))
    else Reader.fail "expected `,` or `;`"
  return .ofTokens [.group .bracket inner]

/-- Reads `break`, a label and a value. A label followed by `:` would start a labeled
loop, which needs parentheses here. -/
def exprBreak (r : Goal → Reader Phrase) (allowStruct : Bool) : Reader Phrase := do
  let b ← Reader.word "break"
  let label ← if ← Reader.peekWith startsLifetime then
      if ← Reader.peekAfter 1 (startsOp [':']) then
        let _ ← r (.expr true)
        Reader.failHere "parentheses required"
      else Reader.lifetime
    else pure []
  let ts ← Reader.tokens
  let value ← if canBeginExpr ts && (allowStruct || !startsGroup .brace ts) then
      tokensOf r (.expr allowStruct) else pure []
  return .ofTokens (b ++ label ++ value)

/-- Reads `if` with its condition and block, and the `else` branches. -/
def ifChain (r : Goal → Reader Phrase) : Nat → Reader (List Token)
  | 0 => pure []
  | n + 1 => do
    let i ← Reader.word "if"
    let cond ← tokensOf r (.expr false)
    let thenBlock ← tokensOf r (.block false)
    match ← Reader.eatWord "else" with
    | none => return i ++ cond ++ thenBlock
    | some e =>
      let ts ← Reader.tokens
      if startsWord "if" ts then return i ++ cond ++ thenBlock ++ e ++ (← ifChain r n)
      else if startsGroup .brace ts then return i ++ cond ++ thenBlock ++ e ++ (← tokensOf r (.block false))
      else Reader.expectedOneOf ["`if`", "curly braces"]

/-- Reads the arms of a `match`. -/
def matchArms (r : Goal → Reader Phrase) : Nat → Reader (List Token)
  | 0 => pure []
  | n + 1 => do
    if ← Reader.atEnd then return []
    let attrs ← tokensOf r .outerAttrs
    let pat ← tokensOf r (.pattern true)
    let guard ← match ← Reader.eatWord "if" with
      | some i => pure (i ++ (← tokensOf r (.expr true)))
      | none => pure []
    let arrow ← Reader.op "=>"
    let body ← r .exprEarly
    let needsComma := match body.form with
      | .blockLike => false
      | _ => true
    let c ← if needsComma && !(← Reader.atEnd) then Reader.op ","
      else pure ((← Reader.eatOp ",").getD [])
    return attrs ++ pat ++ guard ++ arrow ++ body.tokens ++ c ++ (← matchArms r n)

/-- Reads a loop (`while`, `for` or `loop`) after its label. -/
def loopExpr (r : Goal → Reader Phrase) (label : List Token) : Reader Phrase := do
  let ts ← Reader.tokens
  if startsWord "while" ts then
    let w ← Reader.word "while"
    let cond ← tokensOf r (.expr false)
    return ⟨label ++ w ++ cond ++ (← tokensOf r (.block true)), .blockLike⟩
  else if startsWord "for" ts then
    let f ← Reader.word "for"
    let pat ← tokensOf r (.pattern true)
    let i ← Reader.word "in"
    let iter ← tokensOf r (.expr false)
    return ⟨label ++ f ++ pat ++ i ++ iter ++ (← tokensOf r (.block true)), .blockLike⟩
  else
    let l ← Reader.word "loop"
    return ⟨label ++ l ++ (← tokensOf r (.block true)), .blockLike⟩

/-- Reads a labeled loop or block. -/
def labeled (r : Goal → Reader Phrase) : Reader Phrase := do
  let l ← Reader.lifetime
  let colon ← Reader.op ":"
  let ts ← Reader.tokens
  if startsWord "while" ts || startsWord "for" ts || startsWord "loop" ts then
    loopExpr r (l ++ colon)
  else if startsGroup .brace ts then return ⟨l ++ colon ++ (← tokensOf r (.block true)), .blockLike⟩
  else Reader.fail "expected loop or block expression"

/-- Reads a `match` with its arms. -/
def exprMatch (r : Goal → Reader Phrase) : Reader Phrase := do
  let m ← Reader.word "match"
  let scrutinee ← tokensOf r (.expr false)
  let inner ← Reader.delimited .brace do
    let attrs ← tokensOf r .innerAttrs
    return attrs ++ (← matchArms r (← Reader.steps))
  return ⟨m ++ scrutinee ++ [.group .brace inner], .blockLike⟩

/-- Reads the operand of an expression. -/
def atomStep (r : Goal → Reader Phrase) (allowStruct : Bool) : Reader Phrase := do
  let ts ← Reader.tokens
  let second := skipTree ts
  let third := skipTrees 2 ts
  if startsLiteral ts then
    let t ← Reader.literal
    return ⟨[litToken t], .lit t⟩
  else if startsWord "async" ts &&
      (startsGroup .brace second || (startsWord "move" second && startsGroup .brace third)) then
    let a ← Reader.word "async"
    let m ← Reader.eatWord "move"
    return .ofTokens (a ++ m.getD [] ++ (← tokensOf r (.block false)))
  else if startsWord "try" ts && startsGroup .brace second then
    return ⟨(← Reader.word "try") ++ (← tokensOf r (.block false)), .blockLike⟩
  else if startsOp ['|'] ts || startsWord "move" ts ||
      (startsWord "for" ts && startsOp ['<'] second && (startsLifetime third || startsOp ['>'] third)) ||
      (startsWord "const" ts && !startsGroup .brace second) || startsWord "static" ts ||
      (startsWord "async" ts && (startsOp ['|'] second || startsWord "move" second)) then
    closure r allowStruct
  else if startsWord "builtin" ts && startsOp ['#'] second then
    let (_, source) ← Reader.written do
      let _ ← Reader.take 1
      let _ ← Reader.op "#"
      let _ ← Reader.ident
      Reader.delimited .paren do Reader.take (← Reader.tokens).length
    return ⟨source, .verbatim⟩
  else if startsIdent ts || startsOp [':', ':'] ts || startsOp ['<'] ts || startsWord "self" ts ||
      startsWord "Self" ts || startsWord "super" ts || startsWord "crate" ts ||
      (startsWord "try" ts && (startsOp ['!'] second || startsOp [':', ':'] second)) then
    pathOrMacroOrStruct r allowStruct
  else if startsGroup .paren ts then parenOrTuple r
  else if startsWord "break" ts then exprBreak r allowStruct
  else if startsWord "continue" ts then
    let c ← Reader.word "continue"
    let l ← if ← Reader.peekWith startsLifetime then Reader.lifetime else pure []
    return .ofTokens (c ++ l)
  else if startsWord "return" ts || startsWord "yield" ts then
    let k ← Reader.take 1
    let e ← if canBeginExpr (← Reader.tokens) then tokensOf r (.expr true) else pure []
    return .ofTokens (k ++ e)
  else if startsWord "become" ts then
    let (_, source) ← Reader.written do
      let _ ← Reader.word "become"
      r (.expr true)
    return ⟨source, .verbatim⟩
  else if startsGroup .bracket ts then arrayOrRepeat r
  else if startsWord "let" ts then
    let l ← Reader.word "let"
    let p ← tokensOf r (.pattern true)
    let eq ← Reader.op "="
    let lhs ← r (.unary allowStruct)
    let e ← r (.exprTail lhs allowStruct .compare)
    return .ofTokens (l ++ p ++ eq ++ e.tokens)
  else if startsWord "if" ts then return ⟨← ifChain r (← Reader.steps), .blockLike⟩
  else if startsWord "while" ts || startsWord "for" ts || startsWord "loop" ts then loopExpr r []
  else if startsWord "match" ts then exprMatch r
  else if startsWord "unsafe" ts || startsWord "const" ts then
    return ⟨(← Reader.take 1) ++ (← tokensOf r (.block true)), .blockLike⟩
  else if startsGroup .brace ts then return ⟨← tokensOf r (.block true), .blockLike⟩
  else if startsOp ['.', '.'] ts then rangeFrom r [] allowStruct
  else if startsWord "_" ts then return .ofTokens (← Reader.take 1)
  else if startsLifetime ts then labeled r
  else Reader.fail "expected an expression"

/-- Reads parenthesized call arguments. -/
def callArgs (r : Goal → Reader Phrase) : Reader Token := do
  let inner ← Reader.delimited .paren do terminated r (.expr true) (← Reader.steps)
  return .group .paren inner

/-- The tokens of a float literal read as two or more tuple indexes (`x.0.1`): the
indexes with points between them, and whether the literal ended with a point. -/
def indexParts (text : String) : Except String (List Token × Bool) := do
  let trailing := text.endsWith "."
  let body := if trailing then String.ofList text.toList.dropLast else text
  let parts ← (body.splitOn ".").mapM fun p => do
    let digits ← indexOf p
    pure (Token.literal digits)
  return (parts.intersperse (.punct '.' .alone), trailing)

/-- Reads what follows a point: `await`, a method call, or a field. -/
def afterPoint (r : Goal → Reader Phrase) (base : List Token) : Reader Phrase := do
  match ← Reader.eatWord "await" with
  | some a => return .ofTokens (base ++ a)
  | none =>
    let (m, named) ← member
    let turbofish ← if named && (← Reader.peekOp "::") then tokensOf r .angleArgs else pure []
    if named && (!turbofish.isEmpty || (← Reader.peekWith (startsGroup .paren))) then
      return .ofTokens (base ++ m ++ turbofish ++ [← callArgs r])
    return .ofTokens (base ++ m)

/-- Reads what follows an operand: calls, points, indexes and `?`. -/
def trailers (r : Goal → Reader Phrase) : Nat → Phrase → Reader Phrase
  | 0, e => return e
  | n + 1, e => do
    let ts ← Reader.tokens
    if startsGroup .paren ts then
      trailers r n (.ofTokens (e.tokens ++ [← callArgs r]))
    else if startsOp ['.'] ts && !startsOp ['.', '.'] ts && !e.form.isRange then
      let dot ← Reader.op "."
      if ← Reader.peekWith startsFloat then
        let t ← Reader.literal
        let (parts, trailing) ← match indexParts t with
          | .ok r => pure r
          | .error e => Reader.failHere e
        if trailing then
          trailers r n (← afterPoint r (e.tokens ++ dot ++ parts ++ [.punct '.' .alone]))
        else trailers r n (.ofTokens (e.tokens ++ dot ++ parts))
      else trailers r n (← afterPoint r (e.tokens ++ dot))
    else if startsGroup .bracket ts then
      let inner ← Reader.delimited .bracket (tokensOf r (.expr true))
      trailers r n (.ofTokens (e.tokens ++ [.group .bracket inner]))
    else if startsOp ['?'] ts && !e.form.isRange then
      trailers r n (.ofTokens (e.tokens ++ (← Reader.op "?")))
    else return e

/-- Reads prefix operators, an operand and its trailers. -/
def unaryStep (r : Goal → Reader Phrase) (allowStruct : Bool) : Reader Phrase := do
  let begin ← Reader.tokens
  let attrs ← tokensOf r .outerAttrs
  let ts ← Reader.tokens
  if startsOp ['&'] ts then
    let amp ← Reader.op "&"
    let ts ← Reader.tokens
    let raw ← if startsWord "raw" ts &&
        (startsWord "mut" (skipTree ts) || startsWord "const" (skipTree ts)) then
      Reader.take 1 else pure []
    let m ← Reader.eatWord "mut"
    let c ← if !raw.isEmpty && m.isNone then Reader.word "const" else pure []
    let e ← tokensOf r (.unary allowStruct)
    return .ofTokens (attrs ++ amp ++ raw ++ m.getD [] ++ c ++ e)
  else if startsOp ['*'] ts || startsOp ['!'] ts || startsOp ['-'] ts then
    let o ← Reader.take 1
    let o := o.map fun t => match t with
      | .punct c _ => Token.punct c .alone
      | t => t
    return .ofTokens (attrs ++ o ++ (← tokensOf r (.unary allowStruct)))
  else
    let e ← trailers r (← Reader.steps) (← atomStep r allowStruct)
    match e.form with
    | .verbatim =>
      let rest ← Reader.tokens
      return ⟨begin.take (begin.length - rest.length), .verbatim⟩
    | .range =>
      if attrs.isEmpty then return e
      else Reader.failHere "attributes are not allowed on range expressions starting with `..`"
    | _ => return ⟨attrs ++ e.tokens, e.form⟩

/-- Reads what may follow a type after `as`: nothing that binds tighter. -/
def checkCast : Reader Unit := do
  let ts ← Reader.tokens
  let kind : Option String :=
    if startsOp ['.'] ts && !startsOp ['.', '.'] ts then
      let after := skipTree ts
      if startsWord "await" after then some "`.await`"
      else if startsIdent after &&
          (startsGroup .paren (skipTree after) || startsOp [':', ':'] (skipTree after)) then
        some "a method call"
      else some "a field access"
    else if startsOp ['?'] ts then some "`?`"
    else if startsGroup .bracket ts then some "indexing"
    else if startsGroup .paren ts then some "a function call"
    else none
  match kind with
  | some k => Reader.fail ("casts cannot be followed by " ++ k)
  | none => pure ()

/-- Reads the binary operators, assignments, ranges and casts after `lhs` of precedence at
least `base`. -/
def exprTail (r : Goal → Reader Phrase) (allowStruct : Bool) (base : Precedence) :
    Nat → Phrase → Reader Phrase
  | 0, lhs => return lhs
  | n + 1, lhs => do
    if lhs.form.isRange then return lhs
    let ts ← Reader.tokens
    match binaryOperator? ts with
    | some (o, prec) =>
      if prec.rank < base.rank then return lhs
      let chained := match lhs.form with
        | .compare => true
        | _ => false
      if prec = .compare && chained then Reader.fail "comparison operators cannot be chained"
      let opTokens ← Reader.op o
      let rhs ← tokensOf r (.binaryRhs allowStruct prec)
      exprTail r allowStruct base n
        ⟨lhs.tokens ++ opTokens ++ rhs, if prec = .compare then .compare else .other⟩
    | none =>
      if Precedence.assign.rank ≥ base.rank && startsOp ['='] ts && !startsOp ['=', '>'] ts then
        let eq ← Reader.op "="
        let rhs ← tokensOf r (.binaryRhs allowStruct .assign)
        exprTail r allowStruct base n (.ofTokens (lhs.tokens ++ eq ++ rhs))
      else if Precedence.range.rank ≥ base.rank && startsOp ['.', '.'] ts then
        exprTail r allowStruct base n (← rangeFrom r lhs.tokens allowStruct)
      else if Precedence.cast.rank ≥ base.rank && startsWord "as" ts then
        let a ← Reader.word "as"
        let ty ← tokensOf r (.type false)
        checkCast
        exprTail r allowStruct base n (.ofTokens (lhs.tokens ++ a ++ ty))
      else return lhs

/-- Reads the right operand of an operator of precedence `prec`: a unary expression and
the operators after it that bind tighter. -/
def binaryRhsStep (r : Goal → Reader Phrase) (allowStruct : Bool) (prec : Precedence) :
    Reader Phrase := do
  let rhs ← r (.unary allowStruct)
  go (← Reader.steps) rhs
where
  /-- Extends the operand while a tighter operator follows. -/
  go : Nat → Phrase → Reader Phrase
    | 0, rhs => return rhs
    | n + 1, rhs => do
      let next := peekPrecedence (← Reader.tokens)
      if next.rank > prec.rank || (next = prec && prec = .assign) then
        let before := (← Reader.tokens).length
        let rhs' ← r (.exprTail rhs allowStruct next)
        if (← Reader.tokens).length = before then return rhs'
        go n rhs'
      else return rhs

/-- Reads an expression at the start of a statement: a block-like expression ends there
unless a point or `?` follows it. -/
def exprEarlyStep (r : Goal → Reader Phrase) : Reader Phrase := do
  let attrs ← tokensOf r .outerAttrs
  let ts ← Reader.tokens
  let second := skipTree ts
  let third := skipTrees 2 ts
  let blockLike :=
    startsWord "if" ts || startsWord "while" ts ||
      (startsWord "for" ts &&
        !(startsOp ['<'] second && (startsLifetime third || startsOp ['>'] third))) ||
      startsWord "loop" ts || startsWord "match" ts ||
      (startsWord "try" ts && startsGroup .brace second) || startsWord "unsafe" ts ||
      (startsWord "const" ts && startsGroup .brace second) || startsGroup .brace ts ||
      startsLifetime ts
  if blockLike then
    let e ← atomStep r true
    let ts ← Reader.tokens
    if (startsOp ['.'] ts && !startsOp ['.', '.'] ts) || startsOp ['?'] ts then
      let e ← trailers r (← Reader.steps) e
      r (.exprTail ⟨attrs ++ e.tokens, e.form⟩ true .jump)
    else return ⟨attrs ++ e.tokens, e.form⟩
  else
    let u ← r (.unary true)
    let lhs : Phrase := match u.form with
      | .verbatim => u
      | _ => ⟨attrs ++ u.tokens, u.form⟩
    r (.exprTail lhs true .jump)

end Grammar

end Derive

end RecordQuery
