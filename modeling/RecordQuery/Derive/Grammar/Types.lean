import RecordQuery.Derive.Phrase

/-!
# Types, paths and bounds

The grammar of types: paths (`a::b::C<T>`, `<T as Trait>::Out`, `Fn(A) -> B`), references,
pointers, arrays and slices, tuples, function pointers, trait objects (`dyn A + B`),
`impl Trait`, `!`, `_` and macro calls; the bounds of generic parameters and the
`for<...>` binders.

Generic arguments are written back lifetimes first, whatever their order: `Foo<T, 'a>`
becomes `Foo < 'a , T , >` (a comma is added where the reordering needs one).

Each reader takes `r`, the reader of any goal, for the phrases it holds.
-/

namespace RecordQuery

namespace Derive

namespace Grammar

open Tokens

/-- Reads a goal and gives back its tokens. -/
def tokensOf (r : Goal → Reader Phrase) (g : Goal) : Reader (List Token) := do
  return (← r g).tokens

/-- The token of a literal's text: `true` and `false` are words. -/
def litToken (text : String) : Token :=
  if text = "true" || text = "false" then .ident text else .literal text

/-- The comma token. -/
def comma : List Token := [.punct ',' .alone]

/-- Reads one segment of a path and its arguments. -/
def segment (r : Goal → Reader Phrase) (exprStyle : Bool) : Reader (List Token × PathArgs) := do
  let ts ← Reader.tokens
  if startsWord "super" ts || startsWord "self" ts || startsWord "crate" ts ||
      startsWord "try" ts then
    return (← Reader.anyIdent, .none)
  let name ← if startsWord "Self" ts then Reader.anyIdent else Reader.ident
  let ts ← Reader.tokens
  let angle := (!exprStyle && startsOp ['<'] ts && !startsOp ['<', '='] ts &&
      !startsOp ['<', '<', '='] ts) ||
    (startsOp [':', ':'] ts && startsOp ['<'] (skipTrees 2 ts))
  if angle then return (name ++ (← tokensOf r .angleArgs), .angle)
  return (name, .none)

/-- Reads the segments after `::` that continue a path, unless parentheses come after
the `::`. -/
def pathRest (r : Goal → Reader Phrase) (exprStyle : Bool) :
    Reader (List (List Token × PathArgs)) := do
  Reader.repeatSome (← Reader.steps) do
    if (← Reader.peekOp "::") && !(← Reader.peekAfter 2 (startsGroup .paren)) then
      let c ← Reader.op "::"
      let (s, a) ← segment r exprStyle
      return some (c ++ s, a)
    else return none

/-- The shape of a path from the arguments of its segments. -/
def shapeOf (qself leadingColon : Bool) (args : List PathArgs) : PathShape :=
  { qself, leadingColon, segments := args.length, lastArgs := args.getLast?.getD .none,
    plain := args.all (· = .none) }

/-- Reads a path without a qualified self type. -/
def pathStep (r : Goal → Reader Phrase) (exprStyle : Bool) : Reader Phrase := do
  let lead ← Reader.eatOp "::"
  let (first, a) ← segment r exprStyle
  let more ← pathRest r exprStyle
  return ⟨lead.getD [] ++ first ++ more.flatMap (·.1),
    .path (shapeOf false lead.isSome (a :: more.map (·.2)))⟩

/-- Reads a path, perhaps after a qualified self type `<T as Trait>::`. -/
def qpathStep (r : Goal → Reader Phrase) (exprStyle : Bool) : Reader Phrase := do
  if !(← Reader.peekOp "<") then return ← r (.path exprStyle)
  let lt ← Reader.op "<"
  let ty ← tokensOf r (.type true)
  let asPart ← match ← Reader.eatWord "as" with
    | some a => pure (a ++ (← tokensOf r (.path false)))
    | none => pure []
  let gt ← Reader.op ">"
  let colons ← Reader.op "::"
  let (s1, a1) ← segment r exprStyle
  let more ← Reader.repeatSome (← Reader.steps) do
    if ← Reader.peekOp "::" then
      let c ← Reader.op "::"
      let (s, a) ← segment r exprStyle
      return some (c ++ s, a)
    else return none
  return ⟨lt ++ ty ++ asPart ++ gt ++ colons ++ s1 ++ more.flatMap (·.1),
    .path (shapeOf true false (a1 :: more.map (·.2)))⟩

/-- Generic arguments written back lifetimes first; each is given with whether it is a
lifetime and whether a comma followed it. -/
def arrangeArgs (args : List (List Token × Bool × Bool)) : List Token :=
  let lifetimes := args.filter (·.2.1)
  let others := args.filter (!·.2.1)
  let (front, trailing) := lifetimes.foldl
    (fun acc a => (acc.1 ++ a.1 ++ (if a.2.2 then comma else []), a.2.2)) ([], true)
  let (back, _) := others.foldl
    (fun acc a => (acc.1 ++ (if acc.2 then [] else comma) ++ a.1 ++
      (if a.2.2 then comma else []), a.2.2)) ([], trailing)
  front ++ back

/-- Reads bounds joined by `+` until `stop` holds before a bound. -/
def boundList (r : Goal → Reader Phrase) (stop : List Token → Bool)
    (allowPrecise allowConst : Bool) : Nat → Reader (List Token)
  | 0 => pure []
  | n + 1 => do
    if stop (← Reader.tokens) then return []
    let b ← tokensOf r (.bound allowPrecise allowConst)
    match ← Reader.eatOp "+" with
    | none => return b
    | some p => return b ++ p ++ (← boundList r stop allowPrecise allowConst n)

/-- Reads one generic argument: a lifetime, a const argument, a type, or an associated
type, const or constraint (`Item = T`, `N = 3`, `Item: Clone`). -/
def genericArgument (r : Goal → Reader Phrase) : Reader (List Token × Bool) := do
  let ts ← Reader.tokens
  if startsLifetime ts && !startsOp ['+'] (skipTree ts) then
    return (← Reader.lifetime, true)
  if startsLiteral ts || startsGroup .brace ts then
    return (← tokensOf r .constArgument, false)
  let ty ← r (.type true)
  match ty.form with
  | .path s =>
    if !s.qself && !s.leadingColon && s.segments = 1 && s.lastArgs != .paren then
      match ← Reader.eatOp "=" with
      | some eq =>
        let ts ← Reader.tokens
        if startsLiteral ts || startsGroup .brace ts then
          return (ty.tokens ++ eq ++ (← tokensOf r .constArgument), false)
        else return (ty.tokens ++ eq ++ (← tokensOf r (.type true)), false)
      | none =>
        match ← Reader.eatOp ":" with
        | some colon =>
          let stop (ts : List Token) : Bool := startsOp [','] ts || startsOp ['>'] ts
          return (ty.tokens ++ colon ++ (← boundList r stop false true (← Reader.steps)), false)
        | none => return (ty.tokens, false)
    else return (ty.tokens, false)
  | _ => return (ty.tokens, false)

/-- Reads generic arguments in angle brackets, perhaps after `::`. -/
def angleArgsStep (r : Goal → Reader Phrase) : Reader Phrase := do
  let colons ← Reader.eatOp "::"
  let lt ← Reader.op "<"
  let args ← Reader.repeatSome (← Reader.steps) do
    if ← Reader.peekOp ">" then return none
    let (a, isLifetime) ← genericArgument r
    if ← Reader.peekOp ">" then return some (a, isLifetime, false)
    let _ ← Reader.op ","
    return some (a, isLifetime, true)
  let gt ← Reader.op ">"
  return .ofTokens (colons.getD [] ++ lt ++ arrangeArgs args ++ gt)

/-- Reads a const generic argument: a literal (a minus sign and a number are one
literal), an identifier, or a block. -/
def constArgumentStep (r : Goal → Reader Phrase) : Reader Phrase := do
  let ts ← Reader.tokens
  if startsLiteral ts then
    let t ← Reader.literal
    return ⟨[litToken t], .lit t⟩
  if startsIdent ts then return .ofTokens (← Reader.ident)
  if startsGroup .brace ts then return ⟨← tokensOf r (.block true), .blockLike⟩
  Reader.expectedOneOf []

/-- Reads items of a goal separated by commas to the end, a trailing comma allowed. -/
def terminated (r : Goal → Reader Phrase) (g : Goal) : Nat → Reader (List Token)
  | 0 => pure []
  | n + 1 => do
    if ← Reader.atEnd then return []
    let item ← tokensOf r g
    if ← Reader.atEnd then return item
    let c ← Reader.op ","
    return item ++ c ++ (← terminated r g n)

/-- Reads a return type `-> T`, if one comes next, with the form of the type. -/
def returnType (r : Goal → Reader Phrase) (allowPlus : Bool) :
    Reader (Option Phrase) := do
  match ← Reader.eatOp "->" with
  | some arrow =>
    let ty ← r (.type allowPlus)
    return some ⟨arrow ++ ty.tokens, ty.form⟩
  | none => return none

/-- Reads parenthesized arguments and a return type (`(A, B) -> C`). More segments may
follow when there is no return type or it is a type in parentheses. -/
def parenArgsStep (r : Goal → Reader Phrase) : Reader Phrase := do
  let inner ← Reader.delimited .paren do terminated r (.type true) (← Reader.steps)
  let out ← returnType r false
  let more := match out with
    | none => true
    | some p => match p.form with
      | .parenType => true
      | _ => false
  return ⟨.group .paren inner :: (out.map (·.tokens)).getD [], .parenArgs more⟩

/-- Parenthesized arguments after a path, while its last segment has no arguments. -/
def parenTail (r : Goal → Reader Phrase) : Nat → List Token → PathShape → Reader Phrase
  | 0, ts, s => return ⟨ts, .path s⟩
  | n + 1, ts, s => do
    let here := (← Reader.peekWith (startsGroup .paren)) ||
      ((← Reader.peekOp "::") && (← Reader.peekAfter 2 (startsGroup .paren)))
    if s.lastArgs = .none && here then
      let c ← Reader.eatOp "::"
      let args ← r .parenArgs
      let s' := { s with lastArgs := .paren, plain := false }
      match args.form with
      | .parenArgs true =>
        let rest ← pathRest r false
        let s'' := match rest.getLast? with
          | some (_, a) => { s' with segments := s'.segments + rest.length, lastArgs := a }
          | none => s'
        parenTail r n (ts ++ c.getD [] ++ args.tokens ++ rest.flatMap (·.1)) s''
      | _ => return ⟨ts ++ c.getD [] ++ args.tokens, .path s'⟩
    else return ⟨ts, .path s⟩

/-- Reads a type that is a path. -/
def typePathStep (r : Goal → Reader Phrase) : Reader Phrase := do
  let q ← r (.qpath false)
  match q.form with
  | .path s => parenTail r (← Reader.steps) q.tokens s
  | _ => return q

/-- Reads a `for<...>` binder. -/
def boundLifetimesStep (r : Goal → Reader Phrase) : Reader Phrase := do
  let f ← Reader.word "for"
  let lt ← Reader.op "<"
  let params ← Reader.repeatSome (← Reader.steps) do
    if ← Reader.peekOp ">" then return none
    let p ← tokensOf r (.genericParam false)
    if ← Reader.peekOp ">" then return some p
    return some (p ++ (← Reader.op ","))
  let gt ← Reader.op ">"
  return .ofTokens (f ++ lt ++ params.flatten ++ gt)

/-- Reads a precise capture `use<'a, T>`. -/
def preciseCapture : Reader (List Token) := do
  let u ← Reader.word "use"
  let lt ← Reader.op "<"
  let params ← Reader.repeatSome (← Reader.steps) do
    let ts ← Reader.tokens
    if startsLifetime ts then pure ()
    else if startsIdent ts || startsWord "Self" ts then pure ()
    else if startsOp ['>'] ts then return none
    else Reader.expectedOneOf ["lifetime", "identifier", "`>`"]
    let p ← if startsLifetime ts then Reader.lifetime else Reader.anyIdent
    let ts ← Reader.tokens
    if startsOp [','] ts then return some (p ++ (← Reader.op ","))
    else if startsOp ['>'] ts then return some p
    else Reader.expectedOneOf ["`,`", "`>`"]
  let gt ← Reader.op ">"
  return u ++ lt ++ params.flatten ++ gt

/-- Reads a trait bound (`?Sized`, `for<'a> Fn(&'a T)`, `const Clone`), and whether it is
a `const` bound, which is kept as written. -/
def traitBound (r : Goal → Reader Phrase) (allowConst : Bool) :
    Reader (List Token × Bool) := do
  let lifetimes ← if ← Reader.peekWord "for" then
      pure (some (← tokensOf r .boundLifetimes)) else pure none
  let ts ← Reader.tokens
  let conditional := startsGroup .bracket ts
  let always := startsWord "const" ts
  if conditional then
    let _ ← Reader.delimited .bracket (Reader.word "const")
    if !allowConst then Reader.failHere "`[const]` is not allowed here"
  else if always then
    let _ ← Reader.word "const"
    if !allowConst then Reader.failHere "`const` is not allowed here"
  let modifier ← Reader.eatOp "?"
  let lifetimes ← if lifetimes.isNone && modifier.isSome && (← Reader.peekWord "for") then
      pure (some (← tokensOf r .boundLifetimes)) else pure lifetimes
  let p ← r (.path false)
  let p ← match p.form with
    | .path s =>
      let here := (← Reader.peekWith (startsGroup .paren)) ||
        ((← Reader.peekOp "::") && (← Reader.peekAfter 2 (startsGroup .paren)))
      if s.lastArgs = .none && here then
        let c ← Reader.eatOp "::"
        pure (p.tokens ++ c.getD [] ++ (← tokensOf r .parenArgs))
      else pure p.tokens
    | _ => pure p.tokens
  if lifetimes.isSome && modifier.isSome then
    Reader.failHere "`for<...>` binder not allowed with `?` trait polarity modifier"
  return (modifier.getD [] ++ lifetimes.getD [] ++ p, conditional || always)

/-- Reads one bound: a lifetime, a precise capture, or a trait bound, perhaps in
parentheses. -/
def boundStep (r : Goal → Reader Phrase) (allowPrecise allowConst : Bool) :
    Reader Phrase := do
  if ← Reader.peekWith startsLifetime then return ⟨← Reader.lifetime, .lifetime⟩
  if ← Reader.peekWord "use" then
    let p ← preciseCapture
    if allowPrecise then return ⟨p, .preciseCapture⟩
    else Reader.failHere "`use<...>` precise capturing syntax is not allowed here"
  let ((out, isConst), src) ← Reader.written do
    if ← Reader.peekWith (startsGroup .paren) then
      let (inner, c) ← Reader.delimited .paren (traitBound r allowConst)
      return ([Token.group .paren inner], c)
    else traitBound r allowConst
  if isConst then return ⟨src, .verbatimBound⟩ else return ⟨out, .traitBound⟩

/-- Whether a bound may follow a `+` in a list of bounds. -/
def boundFollows (ts : List Token) : Bool :=
  startsAnyIdent ts || startsOp [':', ':'] ts || startsOp ['?'] ts || startsLifetime ts ||
    startsGroup .paren ts || startsGroup .bracket ts

/-- Reads bounds joined by `+` (only one unless `allowPlus`), with their forms. -/
def boundsMultiple (r : Goal → Reader Phrase) (allowPlus allowPrecise allowConst : Bool) :
    Nat → Reader (List Phrase)
  | 0 => pure []
  | n + 1 => do
    let b ← r (.bound allowPrecise allowConst)
    if !(allowPlus && (← Reader.peekOp "+")) then return [b]
    let p ← Reader.op "+"
    if !boundFollows (← Reader.tokens) then return [b, .ofTokens p]
    return b :: .ofTokens p :: (← boundsMultiple r allowPlus allowPrecise allowConst n)

/-- Whether some bound is a trait. -/
def hasTrait (bounds : List Phrase) : Bool :=
  bounds.any fun b => match b.form with
    | .traitBound => true
    | .verbatimBound => true
    | _ => false

/-- Reads the bounds of a trait object, one of which must be a trait. -/
def objectBounds (r : Goal → Reader Phrase) (allowPlus : Bool) : Reader (List Token) := do
  let bounds ← boundsMultiple r allowPlus false false (← Reader.steps)
  if !hasTrait bounds then
    Reader.failHere "at least one trait is required for an object type"
  return bounds.flatMap (·.tokens)

/-- Reads `+` and a bound, again and again. -/
def plusBounds (r : Goal → Reader Phrase) : Nat → Reader (List Token)
  | 0 => pure []
  | n + 1 => do
    match ← Reader.eatOp "+" with
    | none => return []
    | some p =>
      let b ← tokensOf r (.bound false false)
      return p ++ b ++ (← plusBounds r n)

/-- What a parenthesized type turned out to be. -/
inductive ParenKind where
  | unit
  | object
  | maybe
  | tuple
  | single (form : Form)

/-- Reads a type in parentheses: a unit or tuple type, a type in parentheses, or a trait
object whose first bound is in parentheses. -/
def parenType (r : Goal → Reader Phrase) (allowPlus : Bool) : Reader Phrase := do
  let (inner, kind) ← Reader.delimited .paren do
    if ← Reader.atEnd then return ([], ParenKind.unit)
    if ← Reader.peekWith startsLifetime then
      return (← objectBounds r true, .object)
    if ← Reader.peekOp "?" then
      let (b, _) ← traitBound r false
      return (b, .maybe)
    let first ← r (.type true)
    if ← Reader.peekOp "," then
      let c ← Reader.op ","
      return (first.tokens ++ c ++ (← terminated r (.type true) (← Reader.steps)), .tuple)
    return (first.tokens, .single first.form)
  let g := Token.group .paren inner
  match kind with
  | .maybe => return ⟨g :: (← plusBounds r (← Reader.steps)), .bareTrait false⟩
  | .single form =>
    let eligible := match form with
      | .path s => !s.qself
      | .bareTrait single => single
      | _ => false
    if allowPlus && eligible && (← Reader.peekOp "+") then
      return ⟨g :: (← plusBounds r (← Reader.steps)), .bareTrait false⟩
    return ⟨[g], .parenType⟩
  | _ => return ⟨[g], .other⟩

/-- Reads the arguments of a function pointer type, a variadic `...` last. -/
def bareFnArgs (r : Goal → Reader Phrase) : Nat → Reader (List Token)
  | 0 => pure []
  | n + 1 => do
    if ← Reader.atEnd then return []
    let attrs ← tokensOf r .outerAttrs
    let ts ← Reader.tokens
    let named (ts : List Token) : Bool :=
      (startsIdent ts || startsWord "_" ts) && startsOp [':'] (skipTree ts) &&
        !startsOp [':', ':'] (skipTree ts)
    if startsOp ['.', '.', '.'] ts ||
        ((startsIdent ts || startsWord "_" ts) && startsOp [':'] (skipTree ts) &&
          startsOp ['.', '.', '.'] (skipTrees 2 ts)) then
      let name ← if startsIdent ts || startsWord "_" ts then
          pure ((← Reader.anyIdent) ++ (← Reader.op ":")) else pure []
      let dots ← Reader.op "..."
      let c ← Reader.eatOp ","
      return attrs ++ name ++ dots ++ c.getD []
    let name ← if named ts then pure ((← Reader.anyIdent) ++ (← Reader.op ":")) else pure []
    let ty ← tokensOf r (.type true)
    if ← Reader.atEnd then return attrs ++ name ++ ty
    let c ← Reader.op ","
    return attrs ++ name ++ ty ++ c ++ (← bareFnArgs r n)

/-- Reads a function pointer type, after its `for<...>` binder if it had one. -/
def bareFnType (r : Goal → Reader Phrase) (lifetimes : List Token) : Reader Phrase := do
  let uns ← Reader.eatWord "unsafe"
  let abi ← match ← Reader.eatWord "extern" with
    | some e =>
      if ← Reader.peekWith startsString then pure (e ++ (← Reader.take 1)) else pure e
    | none => pure []
  let f ← Reader.word "fn"
  let inner ← Reader.delimited .paren do bareFnArgs r (← Reader.steps)
  let out ← returnType r false
  return .ofTokens (lifetimes ++ uns.getD [] ++ abi ++ f ++ [.group .paren inner] ++
    ((out.map (·.tokens)).getD []))

/-- Reads a type that starts with a path: a path, a macro call, or a trait object. -/
def pathType (r : Goal → Reader Phrase) (allowPlus : Bool) (lifetimes : Option (List Token)) :
    Reader Phrase := do
  let tp ← r .typePath
  match tp.form with
  | .path s =>
    if s.qself then return tp
    if (← Reader.peekOp "!") && !(← Reader.peekOp "!=") && s.plain then
      let bang ← Reader.op "!"
      let g ← Reader.anyGroup
      return .ofTokens (tp.tokens ++ bang ++ [g])
    if lifetimes.isSome || (allowPlus && (← Reader.peekOp "+")) then
      let first := lifetimes.getD [] ++ tp.tokens
      if !allowPlus then return ⟨first, .bareTrait true⟩
      let more ← Reader.repeatSome (← Reader.steps) do
        match ← Reader.eatOp "+" with
        | none => return none
        | some p =>
          if !boundFollows (← Reader.tokens) then return some (p, true)
          return some (p ++ (← tokensOf r (.bound false false)), false)
      let more := (more.takeWhile (!·.2) ++ (more.dropWhile (!·.2)).take 1).map (·.1)
      return ⟨first ++ more.flatten, .bareTrait more.isEmpty⟩
    return tp
  | _ => return tp

/-- The names of what may start a type, in the order they are looked for. -/
def typeStarts : List String :=
  ["`for`", "parentheses", "`fn`", "`unsafe`", "`extern`", "identifier", "`::`", "`<`",
    "`dyn`", "square brackets", "`*`", "`&`", "`!`", "`impl`", "`_`", "lifetime"]

/-- Reads a type. -/
def typeStep (r : Goal → Reader Phrase) (allowPlus : Bool) : Reader Phrase := do
  let lifetimes ← if ← Reader.peekWord "for" then do
      let l ← tokensOf r .boundLifetimes
      let ts ← Reader.tokens
      let ok := startsIdent ts || startsWord "fn" ts || startsWord "unsafe" ts ||
        startsWord "extern" ts || startsWord "super" ts || startsWord "self" ts ||
        startsWord "Self" ts || startsWord "crate" ts
      if !ok || startsWord "dyn" ts then
        Reader.expectedOneOf ["identifier", "`fn`", "`unsafe`", "`extern`", "`super`", "`self`",
          "`Self`", "`crate`"]
      pure (some l)
    else pure none
  let ts ← Reader.tokens
  if startsGroup .paren ts then parenType r allowPlus
  else if startsWord "fn" ts || startsWord "unsafe" ts || startsWord "extern" ts then
    bareFnType r (lifetimes.getD [])
  else if startsIdent ts || startsWord "super" ts || startsWord "self" ts ||
      startsWord "Self" ts || startsWord "crate" ts || startsOp [':', ':'] ts ||
      startsOp ['<'] ts then
    pathType r allowPlus lifetimes
  else if startsWord "dyn" ts then
    let (d, src) ← Reader.written do
      let d ← Reader.word "dyn"
      let star ← Reader.eatOp "*"
      let bounds ← objectBounds r allowPlus
      return (d ++ bounds, star.isSome)
    return .ofTokens (if d.2 then src else d.1)
  else if startsGroup .bracket ts then
    let inner ← Reader.delimited .bracket do
      let elem ← tokensOf r (.type true)
      match ← Reader.eatOp ";" with
      | some semi => return elem ++ semi ++ (← tokensOf r (.expr true))
      | none => return elem
    return .ofTokens [.group .bracket inner]
  else if startsOp ['*'] ts then
    let star ← Reader.op "*"
    let ts ← Reader.tokens
    let m ← if startsWord "const" ts || startsWord "mut" ts then Reader.take 1
      else Reader.expectedOneOf ["`const`", "`mut`"]
    return .ofTokens (star ++ m ++ (← tokensOf r (.type false)))
  else if startsOp ['&'] ts then
    let amp ← Reader.op "&"
    let lt ← if ← Reader.peekWith startsLifetime then Reader.lifetime else pure []
    let m ← Reader.eatWord "mut"
    return .ofTokens (amp ++ lt ++ m.getD [] ++ (← tokensOf r (.type false)))
  else if startsOp ['!'] ts then return .ofTokens (← Reader.op "!")
  else if startsWord "impl" ts then
    let i ← Reader.word "impl"
    let bounds ← boundsMultiple r allowPlus true true (← Reader.steps)
    if !hasTrait bounds then Reader.failHere "at least one trait must be specified"
    return .ofTokens (i ++ bounds.flatMap (·.tokens))
  else if startsWord "_" ts then return .ofTokens (← Reader.take 1)
  else if startsLifetime ts then return ⟨← objectBounds r true, .bareTrait false⟩
  else Reader.expectedOneOf typeStarts

/-- Reads a generic parameter: attributes, then a lifetime with its bounds, a type with its
bounds and default, or a const with its type and default. In a declaration's own
parameters lifetimes are looked for first, and `_` is a type parameter. -/
def genericParamStep (r : Goal → Reader Phrase) (inGenerics : Bool) : Reader Phrase := do
  let attrs ← tokensOf r .outerAttrs
  let ts ← Reader.tokens
  if startsLifetime ts then
    let name ← Reader.lifetime
    let bounds ← match ← Reader.eatOp ":" with
      | some _ => do
        let parts ← Reader.repeatSome (← Reader.steps) do
          let ts ← Reader.tokens
          if startsOp [','] ts || startsOp ['>'] ts then return none
          let l ← Reader.lifetime
          match ← Reader.eatOp "+" with
          | some p => return some (l ++ p)
          | none => return some l
        pure parts.flatten
      | none => pure []
    let colon : List Token := if bounds.isEmpty then [] else [.punct ':' .alone]
    return ⟨attrs ++ name ++ colon ++ bounds, .param (.lifetime attrs name bounds)⟩
  else if startsIdent ts then
    let name ← Reader.ident
    let bounds ← match ← Reader.eatOp ":" with
      | some _ =>
        let stop (ts : List Token) : Bool :=
          startsOp [','] ts || startsOp ['>'] ts || startsOp ['='] ts
        boundList r stop false true (← Reader.steps)
      | none => pure []
    let default ← match ← Reader.eatOp "=" with
      | some eq => pure (eq ++ (← tokensOf r (.type true)))
      | none => pure []
    let colon : List Token := if bounds.isEmpty then [] else [.punct ':' .alone]
    let nameToken := name.head?.getD (.ident "_")
    return ⟨attrs ++ name ++ colon ++ bounds ++ default, .param (.type attrs nameToken bounds)⟩
  else if startsWord "const" ts then
    let c ← Reader.word "const"
    let name ← Reader.ident
    let colon ← Reader.op ":"
    let ty ← tokensOf r (.type true)
    let default ← match ← Reader.eatOp "=" with
      | some eq => pure (eq ++ (← tokensOf r .constArgument))
      | none => pure []
    let nameToken := name.head?.getD (.ident "_")
    return ⟨attrs ++ c ++ name ++ colon ++ ty ++ default, .param (.const attrs nameToken ty)⟩
  else if inGenerics && startsWord "_" ts then
    let name ← Reader.anyIdent
    return ⟨attrs ++ name, .param (.type attrs (name.head?.getD (.ident "_")) [])⟩
  else if inGenerics then Reader.expectedOneOf ["lifetime", "identifier", "`const`"]
  else Reader.expectedOneOf ["identifier", "lifetime", "`const`"]

end Grammar

end Derive

end RecordQuery
