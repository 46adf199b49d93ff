import RecordQuery.Derive.Lex
import RecordQuery.Derive.Grammar.Read

/-!
# Type declarations

A declaration is a struct, an enum or a union, with its attributes, visibility, name,
generic parameters and where clause. A struct has named fields in braces, unnamed fields
in parentheses (then its where clause comes after them, before a `;`), or none; a field
has attributes, a visibility, a name (when named) and a type. Types, bounds and predicates
are read by the grammar and kept as the tokens in which they are written back.

Generics are written back in two ways for an implementation of a trait for the declared
type. The parameters of the implementation keep their bounds and attributes and drop their
defaults; the arguments of the type keep the names only. Both put lifetimes before the
other parameters and add a comma where the reordering needs one; a comma that the source
wrote after a parameter stays after it.
-/

namespace RecordQuery

namespace Derive

/-- Generic parameters, each with whether a comma follows it, and the predicates of the
where clause (none without one). -/
structure Generics where
  params : List (GenericParam × Bool) := []
  predicates : Option (List Token) := none

/-- A field of a struct, a union or an enum variant. -/
structure FieldDecl where
  attrs : List Attribute
  /-- The name as written (`r#type` for a raw one); none for an unnamed field. -/
  name : Option String
  ty : List Token

/-- The fields of a struct or a variant. -/
inductive FieldList where
  | named (fields : List FieldDecl)
  | unnamed (fields : List FieldDecl)
  | unit

/-- A variant of an enum. -/
structure Variant where
  name : String
  fields : FieldList

/-- What a declaration declares. -/
inductive Shape where
  | struct (fields : FieldList)
  | enum (variants : List Variant)
  | union (fields : List FieldDecl)

/-- A declaration of a struct, an enum or a union. -/
structure Declaration where
  attrs : List Attribute
  name : String
  generics : Generics
  shape : Shape

namespace Grammar

open Tokens

/-- Reads outer attributes. -/
def attributes : Reader (List Attribute) := do
  match (← readAll .outerAttrs).form with
  | .attrs list => return list
  | _ => return []

/-- Reads the word of a name: an identifier that is no keyword. -/
def name : Reader String := do
  match ← Reader.ident with
  | [.ident s] => return s
  | _ => Reader.fail "expected identifier"

/-- Reads one generic parameter of a declaration. -/
def declParam : Reader GenericParam := do
  match (← readAll (.genericParam true)).form with
  | .param p => return p
  | _ => Reader.fail "expected one of: lifetime, identifier, `const`"

/-- Reads a declaration's generic parameters in angle brackets, if they come next. -/
def genericParams : Reader (List (GenericParam × Bool)) := do
  if !(← Reader.peekOp "<") then return []
  let _ ← Reader.op "<"
  let params ← Reader.repeatSome (← Reader.steps) do
    if ← Reader.peekOp ">" then return none
    let p ← declParam
    if ← Reader.peekOp ">" then return some (p, false)
    let _ ← Reader.op ","
    return some (p, true)
  let _ ← Reader.op ">"
  return params

/-- Lifetimes joined by `+` until `stop` holds before one. -/
def lifetimeBounds (stop : List Token → Bool) : Nat → Reader (List Token)
  | 0 => pure []
  | n + 1 => do
    if stop (← Reader.tokens) then return []
    let l ← Reader.lifetime
    match ← Reader.eatOp "+" with
    | some p => return l ++ p ++ (← lifetimeBounds stop n)
    | none => return l

/-- Reads one predicate of a where clause: a lifetime and its bounds, or a type (after a
`for<...>` binder) and its bounds. -/
def predicate : Reader (List Token) := do
  let ts ← Reader.tokens
  if startsLifetime ts && startsOp [':'] (skipTree ts) then
    let l ← Reader.lifetime
    let c ← Reader.op ":"
    let stop (ts : List Token) : Bool :=
      ts.isEmpty || startsGroup .brace ts || startsOp [','] ts || startsOp [';'] ts ||
        startsOp [':'] ts || startsOp ['='] ts
    return l ++ c ++ (← lifetimeBounds stop (← Reader.steps))
  let lifetimes ← if ← Reader.peekWord "for" then tokensOf readAll .boundLifetimes
    else pure []
  let ty ← tokensOf readAll (.type true)
  let c ← Reader.op ":"
  let stop (ts : List Token) : Bool :=
    ts.isEmpty || startsGroup .brace ts || startsOp [','] ts || startsOp [';'] ts ||
      (startsOp [':'] ts && !startsOp [':', ':'] ts) || startsOp ['='] ts
  return lifetimes ++ ty ++ c ++ (← boundList readAll stop false true (← Reader.steps))

/-- Reads the predicates of a where clause, commas included. -/
def predicates : Nat → Reader (List Token)
  | 0 => pure []
  | n + 1 => do
    let ts ← Reader.tokens
    if ts.isEmpty || startsGroup .brace ts || startsOp [','] ts || startsOp [';'] ts ||
        (startsOp [':'] ts && !startsOp [':', ':'] ts) || startsOp ['='] ts then
      return []
    let p ← predicate
    match ← Reader.eatOp "," with
    | some c => return p ++ c ++ (← predicates n)
    | none => return p

/-- Reads a where clause, if one comes next. -/
def whereClause : Reader (Option (List Token)) := do
  if (← Reader.eatWord "where").isNone then return none
  return some (← predicates (← Reader.steps))

/-- Reads items separated by commas to the end, a trailing comma allowed. -/
def separated {α : Type} (item : Reader α) : Nat → Reader (List α)
  | 0 => pure []
  | n + 1 => do
    if ← Reader.atEnd then return []
    let a ← item
    if ← Reader.atEnd then return [a]
    let _ ← Reader.op ","
    return a :: (← separated item n)

/-- Reads an unnamed field. -/
def unnamedField : Reader FieldDecl := do
  let attrs ← attributes
  let _ ← visibility
  return ⟨attrs, none, ← tokensOf readAll (.type true)⟩

mutual

/-- Reads a named field; a field named `_` may have an anonymous struct or union as its
type, kept as written. -/
def namedField : Nat → Reader FieldDecl
  | 0 => Reader.failHere "recursion limit reached"
  | n + 1 => do
    let attrs ← attributes
    let _ ← visibility
    let anonymous ← Reader.peekWord "_"
    let fieldName ← if anonymous then do
        match ← Reader.anyIdent with
        | [.ident s] => pure s
        | _ => pure "_"
      else name
    let _ ← Reader.op ":"
    let ts ← Reader.tokens
    if anonymous && (startsWord "struct" ts ||
        (startsWord "union" ts && startsGroup .brace (skipTree ts))) then
      let (_, source) ← Reader.written do
        let _ ← Reader.take 1
        namedFields n
      return ⟨attrs, some fieldName, source⟩
    return ⟨attrs, some fieldName, ← tokensOf readAll (.type true)⟩

/-- Reads named fields in braces. -/
def namedFields : Nat → Reader (List FieldDecl)
  | 0 => Reader.failHere "recursion limit reached"
  | n + 1 => Reader.delimited .brace do separated (namedField n) (← Reader.steps)

end

/-- Reads unnamed fields in parentheses. -/
def unnamedFields : Reader (List FieldDecl) :=
  Reader.delimited .paren do separated unnamedField (← Reader.steps)

/-- Reads named fields in braces, nested at most as deep as the tokens left allow. -/
def bracedFields : Reader (List FieldDecl) := do
  namedFields (Tokens.count (← Reader.tokens) + 1)

/-- Reads a variant of an enum, and its discriminant if it has one. -/
def variant : Reader Variant := do
  let _ ← attributes
  let _ ← visibility
  let variantName ← name
  let ts ← Reader.tokens
  let fields ← if startsGroup .brace ts then pure (FieldList.named (← bracedFields))
    else if startsGroup .paren ts then pure (FieldList.unnamed (← unnamedFields))
    else pure FieldList.unit
  if ← Reader.peekOp "=" then
    let _ ← Reader.op "="
    let _ ← readAll (.expr true)
  return ⟨variantName, fields⟩

/-- Reads the body of a struct after its generics: the where clause and the fields. -/
def structBody : Reader (Option (List Token) × FieldList) := do
  let pre ← whereClause
  let ts ← Reader.tokens
  if pre.isNone && startsGroup .paren ts then
    let fields ← unnamedFields
    let post ← whereClause
    if (← Reader.eatOp ";").isSome then return (post, .unnamed fields)
    else if post.isSome then Reader.expectedOneOf ["`;`"]
    else Reader.expectedOneOf ["`where`", "`;`"]
  else if startsGroup .brace ts then return (pre, .named (← bracedFields))
  else if (← Reader.eatOp ";").isSome then return (pre, .unit)
  else if pre.isSome then Reader.expectedOneOf ["curly braces", "`;`"]
  else Reader.expectedOneOf ["`where`", "parentheses", "curly braces", "`;`"]

/-- Reads a declaration. -/
def declaration : Reader Declaration := do
  let attrs ← attributes
  let _ ← visibility
  let ts ← Reader.tokens
  if startsWord "struct" ts then
    let _ ← Reader.take 1
    let declName ← name
    let params ← genericParams
    let (preds, fields) ← structBody
    return ⟨attrs, declName, ⟨params, preds⟩, .struct fields⟩
  else if startsWord "enum" ts then
    let _ ← Reader.take 1
    let declName ← name
    let params ← genericParams
    let preds ← whereClause
    let variants ← Reader.delimited .brace do separated variant (← Reader.steps)
    return ⟨attrs, declName, ⟨params, preds⟩, .enum variants⟩
  else if startsWord "union" ts then
    let _ ← Reader.take 1
    let declName ← name
    let params ← genericParams
    let preds ← whereClause
    let fields ← bracedFields
    return ⟨attrs, declName, ⟨params, preds⟩, .union fields⟩
  else Reader.expectedOneOf ["`struct`", "`enum`", "`union`"]

end Grammar

/-- Reads a declaration from source text, to its end. Text that is no sequence of tokens
fails with "cannot parse string into token stream". -/
def Declaration.read (src : String) : Except SyntaxError Declaration :=
  match tokenize src with
  | none => .error ⟨"cannot parse string into token stream", false⟩
  | some ts => Reader.runAll Grammar.declaration ts

namespace GenericParam

/-- Whether a parameter is a lifetime. -/
def isLifetime : GenericParam → Bool
  | .lifetime .. => true
  | _ => false

/-- The tokens of a parameter of an implementation: attributes, name and bounds (a
const parameter's type). -/
def implTokens : GenericParam → List Token
  | .lifetime attrs name bounds =>
    attrs ++ name ++ (if bounds.isEmpty then [] else .punct ':' .alone :: bounds)
  | .type attrs name bounds =>
    attrs ++ [name] ++ (if bounds.isEmpty then [] else .punct ':' .alone :: bounds)
  | .const attrs name ty => attrs ++ [.ident "const", name, .punct ':' .alone] ++ ty

/-- The tokens of a parameter as an argument of the type: its name. -/
def argTokens : GenericParam → List Token
  | .lifetime _ name _ => name
  | .type _ name _ => [name]
  | .const _ name _ => [name]

end GenericParam

namespace Generics

/-- Writes the parameters lifetimes first, each by `write`: a comma stays after the
parameter it followed, and one is added before the first other parameter when the last
lifetime had none. -/
def arrange (write : GenericParam → List Token) (params : List (GenericParam × Bool)) :
    List Token :=
  let comma (b : Bool) : List Token := if b then [.punct ',' .alone] else []
  let lifetimes := params.filter (·.1.isLifetime)
  let others := params.filter (!·.1.isLifetime)
  let front := lifetimes.flatMap fun (p, c) => write p ++ comma c
  let closed := (lifetimes.getLast?.map (·.2)).getD true
  let back := others.flatMap fun (p, c) => write p ++ comma c
  if params.isEmpty then []
  else
    [.punct '<' .alone] ++ front ++
      (if closed || others.isEmpty then [] else [.punct ',' .alone]) ++ back ++
      [.punct '>' .alone]

/-- The parameters of an implementation, as text; empty without parameters. -/
def implText (g : Generics) : String := renderList (arrange GenericParam.implTokens g.params)

/-- The declared type with its generic arguments, as text. -/
def typeText (g : Generics) (name : String) : String :=
  renderList (.ident name :: arrange GenericParam.argTokens g.params)

/-- The where clause as text; none without predicates. -/
def whereText? (g : Generics) : Option String :=
  match g.predicates with
  | some (t :: ts) => some (renderList (.ident "where" :: t :: ts))
  | _ => none

end Generics

end Derive

end RecordQuery
