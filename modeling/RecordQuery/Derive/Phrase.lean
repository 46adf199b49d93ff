import RecordQuery.Derive.Attribute

/-!
# Phrases of the grammar

The grammar of declarations reads phrases: types, paths, bounds, expressions, patterns,
statements and attributes. Each phrase is given back as the tokens in which it is written
back, together with its form: the little that a reader of a larger phrase needs to know
about a smaller one (whether an expression is a lone literal or a range, whether a type is
a plain path, which meta item an attribute holds).

The grammar is recursive: types hold expressions (array lengths), expressions hold types
(casts) and blocks, and so on. Every place that reads a smaller phrase names it by a goal,
and one function, given a depth bound, reads any goal.
-/

namespace RecordQuery

namespace Derive

/-- A generic parameter, as the tokens of its parts. -/
inductive GenericParam where
  /-- A lifetime with its attributes and bounds. -/
  | lifetime (attrs : List Token) (name : List Token) (bounds : List Token)
  /-- A type parameter with its attributes and bounds; its default is not kept. -/
  | type (attrs : List Token) (name : Token) (bounds : List Token)
  /-- A const parameter with its attributes and type; its default is not kept. -/
  | const (attrs : List Token) (name : Token) (ty : List Token)

/-- The arguments of a path's last segment. -/
inductive PathArgs where
  | none
  | angle
  | paren
deriving DecidableEq

/-- What a reader of a larger phrase needs to know about a path. -/
structure PathShape where
  /-- Whether it starts with a qualified self type `<T as Trait>::`. -/
  qself : Bool := false
  leadingColon : Bool := false
  segments : Nat := 1
  lastArgs : PathArgs := .none
  /-- Whether no segment has arguments. -/
  plain : Bool := true

/-- The form of a phrase. -/
inductive Form where
  | other
  /-- A lone literal, with its text. -/
  | lit (text : String)
  | lifetime
  | path (shape : PathShape)
  /-- A type in parentheses. -/
  | parenType
  /-- A trait object without `dyn`; `single` when it has one bound and no trailing `+`. -/
  | bareTrait (single : Bool)
  /-- Parenthesized arguments, and whether they allow more path segments after them. -/
  | parenArgs (moreSegments : Bool)
  | traitBound
  /-- A bound kept as written (a `const` bound). -/
  | verbatimBound
  | preciseCapture
  /-- An expression that is a range. -/
  | range
  /-- An expression that is a comparison. -/
  | compare
  /-- An expression that ends with a block and needs no `;` as a statement. -/
  | blockLike
  /-- A macro call, and whether its delimiter is a brace. -/
  | macroCall (braced : Bool)
  /-- A statement, and whether another statement may follow it only after a `;`. -/
  | statement (needsSemi : Bool)
  | attrs (list : List Attribute)
  | metaItem (m : Meta)
  | metaItems (list : List Meta)
  | param (p : GenericParam)
  /-- A pattern that is a rest `..`. -/
  | rest
  /-- A range pattern without a start or without an end. -/
  | partialRange
  /-- A phrase kept as it was written, which carries no attributes. -/
  | verbatim

/-- Whether a form is that of a range. -/
def Form.isRange : Form → Bool
  | .range => true
  | _ => false

/-- A phrase: its tokens as written back, and its form. -/
structure Phrase where
  tokens : List Token
  form : Form := .other

/-- Precedence of expressions, from the loosest to the tightest binding. -/
inductive Precedence where
  | jump
  | assign
  | range
  | logicalOr
  | logicalAnd
  | letBinding
  | compare
  | bitOr
  | bitXor
  | bitAnd
  | shift
  | sum
  | product
  | cast
  | prefixOp
  | unambiguous
deriving DecidableEq

/-- The rank of a precedence: a higher rank binds tighter. -/
def Precedence.rank : Precedence → Nat
  | .jump => 0
  | .assign => 1
  | .range => 2
  | .logicalOr => 3
  | .logicalAnd => 4
  | .letBinding => 5
  | .compare => 6
  | .bitOr => 7
  | .bitXor => 8
  | .bitAnd => 9
  | .shift => 10
  | .sum => 11
  | .product => 12
  | .cast => 13
  | .prefixOp => 14
  | .unambiguous => 15

/-- The binary operators, in the order they are tried (compound assignments first, longer
operators before their prefixes), with their precedence. -/
def binaryOperators : List (String × Precedence) :=
  [("+=", .assign), ("-=", .assign), ("*=", .assign), ("/=", .assign), ("%=", .assign),
    ("^=", .assign), ("&=", .assign), ("|=", .assign), ("<<=", .assign), (">>=", .assign),
    ("&&", .logicalAnd), ("||", .logicalOr), ("<<", .shift), (">>", .shift), ("==", .compare),
    ("<=", .compare), ("!=", .compare), (">=", .compare), ("+", .sum), ("-", .sum),
    ("*", .product), ("/", .product), ("%", .product), ("^", .bitXor), ("&", .bitAnd),
    ("|", .bitOr), ("<", .compare), (">", .compare)]

/-- The binary operator at the front of the tokens, if there is one. -/
def binaryOperator? (ts : List Token) : Option (String × Precedence) :=
  binaryOperators.find? fun (o, _) => Tokens.startsOp o.toList ts

/-- What the grammar reads. -/
inductive Goal where
  /-- A type; `allowPlus` lets it be a trait object with several bounds. -/
  | type (allowPlus : Bool)
  /-- A type that is a path, with parenthesized arguments (`Fn(A) -> B`). -/
  | typePath
  /-- A path without a qualified self type; `exprStyle` needs `::` before `<`. -/
  | path (exprStyle : Bool)
  /-- A path, perhaps after a qualified self type. -/
  | qpath (exprStyle : Bool)
  /-- Generic arguments in angle brackets, perhaps after `::`. -/
  | angleArgs
  /-- Parenthesized arguments and a return type. -/
  | parenArgs
  /-- One bound of a type parameter or trait object. -/
  | bound (allowPrecise allowConst : Bool)
  /-- A `for<...>` binder. -/
  | boundLifetimes
  /-- A generic parameter; `inGenerics` when it is in a declaration's own parameters. -/
  | genericParam (inGenerics : Bool)
  /-- Outer attributes. -/
  | outerAttrs
  /-- Inner attributes. -/
  | innerAttrs
  /-- A meta item. -/
  | metaItem
  /-- Meta items separated by commas, to the end. -/
  | metaItems
  /-- A const generic argument: a literal, an identifier or a block. -/
  | constArgument
  /-- An expression; `allowStruct` lets a path before braces be a struct literal. -/
  | expr (allowStruct : Bool)
  /-- An expression of prefix operators, an operand and its trailers. -/
  | unary (allowStruct : Bool)
  /-- The binary operators after `lhs`, of precedence at least `base`. -/
  | exprTail (lhs : Phrase) (allowStruct : Bool) (base : Precedence)
  /-- The right operand of an operator of precedence `prec`. -/
  | binaryRhs (allowStruct : Bool) (prec : Precedence)
  /-- An expression at the start of a statement. -/
  | exprEarly
  /-- A block in braces; `inner` lets it open with inner attributes. -/
  | block (inner : Bool)
  /-- A statement. -/
  | statement
  /-- A pattern; `multi` allows alternatives. -/
  | pattern (multi : Bool)

/-- A phrase of tokens with no particular form. -/
def Phrase.ofTokens (ts : List Token) : Phrase := ⟨ts, .other⟩

/-- The multi-character operators that are written back as one, longest first. -/
def glueable : List String :=
  ["<<=", ">>=", "...", "..=", "::", "->", "=>", "==", "!=", "<=", ">=", "&&", "||", "+=", "-=",
    "*=", "/=", "%=", "^=", "&=", "|=", "<<", ".."]

/-- Tokens as a whole is written back when it was not read in detail: each run of joint
punctuation split into the operators of `glueable` and single characters. -/
def canonical (fuel : Nat) (ts : List Token) : List Token :=
  match fuel with
  | 0 => ts
  | f + 1 =>
    match ts with
    | [] => []
    | .punct '\'' .joint :: .ident s :: rest => Token.lifetime s ++ canonical f rest
    | .punct c sp :: rest =>
      match glueable.find? fun o => Tokens.startsOp o.toList ts with
      | some o => Token.operator o.toList ++ canonical f (ts.drop o.length)
      | none =>
        let _ := sp
        .punct c .alone :: canonical f rest
    | .group d inner :: rest => .group d (canonical f inner) :: canonical f rest
    | t :: rest => t :: canonical f rest

end Derive

end RecordQuery
