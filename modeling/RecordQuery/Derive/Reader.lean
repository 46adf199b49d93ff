import RecordQuery.Derive.Token

/-!
# Reading token trees

A reader takes tokens from the front of a list and either returns what it read or fails
with a syntax error. Most errors say what was expected, and when the list had already run
out at that point the message starts with "unexpected end of input"; a missing
punctuation mark (`expected ,`) never has that beginning. A group is read as a whole, and
its contents by a reader of their own, so "the end of input" is also the end of a group's
contents.

Tokens left over at the end of a group are not an error at once: the first such group is
remembered, and reported ("unexpected token, expected `)`") only when everything else has
been read without error.

Punctuation is matched by characters: a multi-character operator such as `<<=` is that
many characters, each but the last joint to the next. A reader gives back the tokens it
read in the form in which they are written back: an operator as it was matched, every
other punctuation character alone, a lifetime's apostrophe joint.
-/

namespace RecordQuery

namespace Derive

/-- A syntax error: what was expected, and whether the input had ended there. -/
structure SyntaxError where
  text : String
  atEnd : Bool
deriving DecidableEq

/-- The text of a syntax error. -/
def SyntaxError.message (e : SyntaxError) : String :=
  if e.atEnd then "unexpected end of input, " ++ e.text else e.text

/-- What a reader has left: the tokens of the current group, and the report of the first
group whose contents were not read to the end. -/
structure ReadState where
  rest : List Token
  pending : Option String := none

/-- The expectation of a group with a delimiter. -/
def Delimiter.expectation : Delimiter → String
  | .paren => "expected parentheses"
  | .bracket => "expected square brackets"
  | .brace => "expected curly braces"

/-- A reader of token trees. -/
abbrev Reader (α : Type) := StateT ReadState (Except SyntaxError) α

/-- The keywords, which are not identifiers. -/
def keywords : List String :=
  ["_", "abstract", "as", "async", "await", "become", "box", "break", "const", "continue",
    "crate", "do", "dyn", "else", "enum", "extern", "false", "final", "fn", "for", "if",
    "impl", "in", "let", "loop", "macro", "match", "mod", "move", "mut", "override", "priv",
    "pub", "ref", "return", "Self", "self", "static", "struct", "super", "trait", "true",
    "try", "type", "typeof", "unsafe", "unsized", "use", "virtual", "where", "while", "yield"]

/-- Whether a word is a keyword. -/
def isKeyword (s : String) : Bool := keywords.contains s

/-! ## Looking at the next tokens -/

namespace Tokens

/-- Whether the tokens start with the operator `op`: its characters, each but the last
joint. -/
def startsOp : List Char → List Token → Bool
  | [], _ => true
  | [c], .punct d _ :: _ => c == d
  | c :: cs, .punct d .joint :: rest => c == d && startsOp cs rest
  | _, _ => false

/-- Whether the tokens start with the word `w`, keyword or not. -/
def startsWord (w : String) : List Token → Bool
  | .ident s :: _ => s == w
  | _ => false

/-- Whether the tokens start with an identifier that is no keyword. -/
def startsIdent : List Token → Bool
  | .ident s :: _ => !isKeyword s
  | _ => false

/-- Whether the tokens start with a word of any kind. -/
def startsAnyIdent : List Token → Bool
  | .ident _ :: _ => true
  | _ => false

/-- Whether the tokens start with a lifetime. -/
def startsLifetime : List Token → Bool
  | .punct '\'' .joint :: .ident _ :: _ => true
  | _ => false

/-- Whether a literal's text is a number. -/
def isNumber (text : String) : Bool :=
  (text.toList.head?.map fun c => '0' ≤ c && c ≤ '9').getD false

/-- Whether the tokens start with a literal: a literal token, `true`, `false`, or a minus
sign before a number. -/
def startsLiteral : List Token → Bool
  | .literal _ :: _ => true
  | .ident "true" :: _ => true
  | .ident "false" :: _ => true
  | .punct '-' _ :: .literal t :: _ => isNumber t
  | _ => false

/-- Whether a literal's text is a string literal, quoted or raw. -/
def isStringText (text : String) : Bool :=
  match text.toList with
  | '"' :: _ => true
  | 'r' :: _ => true
  | _ => false

/-- The value of a decimal digit. -/
def digitValue? (c : Char) : Option Nat :=
  if '0' ≤ c && c ≤ '9' then some (c.toNat - '0'.toNat) else none

/-- Whether what follows an `e` of a decimal number makes it a float: digits, before any
other character (underscores skipped), or a sign. -/
def exponentFollows (seen : Bool) : List Char → Bool
  | [] => seen
  | '_' :: rest => exponentFollows seen rest
  | '-' :: _ => true
  | '+' :: _ => true
  | c :: rest => if (digitValue? c).isSome then exponentFollows true rest else seen

/-- The digits of an integer literal after its base prefix: the value so far, whether a
digit was seen, and the suffix; none when the text is no integer (a point or an exponent
in base 10, or a digit out of the base). -/
def integerDigits (base : Nat) (value : Nat) (seen : Bool) : List Char → Option (Nat × String)
  | [] => if seen then some (value, "") else none
  | c :: rest =>
    let digit : Option Nat :=
      match digitValue? c with
      | some d => some d
      | none =>
        if base > 10 && 'a' ≤ c && c ≤ 'f' then some (c.toNat - 'a'.toNat + 10)
        else if base > 10 && 'A' ≤ c && c ≤ 'F' then some (c.toNat - 'A'.toNat + 10)
        else none
    match digit with
    | some d => if d < base then integerDigits base (base * value + d) true rest else none
    | none =>
      if c = '_' then integerDigits base value seen rest
      else if base = 10 && c = '.' then none
      else if base = 10 && (c = 'e' || c = 'E') && exponentFollows false rest then none
      else if seen then some (value, String.ofList (c :: rest))
      else none

/-- The value and suffix of an integer literal's text, a leading minus sign ignored;
none when the text is no integer. An integer has no point and no exponent; `1e` with no
digits after it is the integer 1 with the suffix `e`. -/
def integerParts? (text : String) : Option (Nat × String) :=
  let cs := match text.toList with
    | '-' :: rest => rest
    | cs => cs
  match cs with
  | '0' :: 'x' :: rest => integerDigits 16 0 false rest
  | '0' :: 'o' :: rest => integerDigits 8 0 false rest
  | '0' :: 'b' :: rest => integerDigits 2 0 false rest
  | c :: _ => if (digitValue? c).isSome then integerDigits 10 0 false cs else none
  | [] => none

/-- Whether a literal's text is an integer. -/
def isIntegerText (text : String) : Bool := (integerParts? text).isSome

/-- Whether the tokens start with a string literal. -/
def startsString : List Token → Bool
  | .literal t :: _ => isStringText t
  | _ => false

/-- Whether the tokens start with an integer literal. -/
def startsInteger : List Token → Bool
  | .literal t :: _ => isIntegerText t
  | _ => false

/-- Whether the tokens start with a float literal. -/
def startsFloat : List Token → Bool
  | .literal t :: _ => isNumber t && !isIntegerText t
  | _ => false

/-- Whether the tokens start with a group with the delimiter `d`. -/
def startsGroup (d : Delimiter) : List Token → Bool
  | .group d' _ :: _ => d' == d
  | _ => false

/-- Whether the tokens start with a group. -/
def startsAnyGroup : List Token → Bool
  | .group _ _ :: _ => true
  | _ => false

/-- The tokens after the first token tree; a lifetime counts as one. -/
def skipTree : List Token → List Token
  | .punct '\'' .joint :: .ident _ :: rest => rest
  | _ :: rest => rest
  | [] => []

/-- The tokens after `n` token trees. -/
def skipTrees : Nat → List Token → List Token
  | 0, ts => ts
  | n + 1, ts => skipTrees n (skipTree ts)

/-- The number of tokens, those inside groups included. -/
def count : List Token → Nat
  | [] => 0
  | .group _ inner :: rest => 1 + count inner + count rest
  | _ :: rest => 1 + count rest

end Tokens

namespace Reader

/-- The tokens left. -/
def tokens : Reader (List Token) := do
  return (← get).rest

/-- Whether no tokens are left. -/
def atEnd : Reader Bool := do
  return (← get).rest.isEmpty

/-- Whether the tokens left satisfy `p`. -/
def peekWith (p : List Token → Bool) : Reader Bool := do
  return p (← get).rest

/-- Whether the tokens after `n` token trees satisfy `p`. -/
def peekAfter (n : Nat) (p : List Token → Bool) : Reader Bool := do
  return p (Tokens.skipTrees n (← get).rest)

/-- Whether the operator `op` comes next. -/
def peekOp (op : String) : Reader Bool := peekWith (Tokens.startsOp op.toList)

/-- Whether the word `w` comes next. -/
def peekWord (w : String) : Reader Bool := peekWith (Tokens.startsWord w)

/-- Fails with the given expectation, which starts with "unexpected end of input" when
no tokens are left. -/
def fail {α : Type} (text : String) : Reader α := do
  throw ⟨text, (← atEnd)⟩

/-- Fails with the given message as it is. -/
def failHere {α : Type} (text : String) : Reader α :=
  throw ⟨text, false⟩

/-- The error of an expectation among several things, named in the order they were
looked for. -/
def expectedOneOf {α : Type} (names : List String) : Reader α :=
  match names with
  | [] => do
    if ← atEnd then failHere "unexpected end of input" else failHere "unexpected token"
  | [a] => fail ("expected " ++ a)
  | [a, b] => fail ("expected " ++ a ++ " or " ++ b)
  | _ => fail ("expected one of: " ++ ", ".intercalate names)

/-- Drops `n` tokens and gives them back. -/
def take (n : Nat) : Reader (List Token) := do
  let s ← get
  set { s with rest := s.rest.drop n }
  return s.rest.take n

/-- Takes the operator `op` if it comes next. -/
def eatOp (op : String) : Reader (Option (List Token)) := do
  if ← peekOp op then
    let _ ← take op.length
    return some (Token.operator op.toList)
  else return none

/-- Takes the operator `op`, which must come next. -/
def op (o : String) : Reader (List Token) := do
  match ← eatOp o with
  | some ts => return ts
  | none => failHere ("expected " ++ "`" ++ o ++ "`")

/-- Takes the word `w` if it comes next. -/
def eatWord (w : String) : Reader (Option (List Token)) := do
  if ← peekWord w then take 1 else return none

/-- Takes the keyword `w`, which must come next. -/
def word (w : String) : Reader (List Token) := do
  match ← eatWord w with
  | some ts => return ts
  | none => fail ("expected " ++ "`" ++ w ++ "`")

/-- Takes an identifier that is no keyword. -/
def ident : Reader (List Token) := do
  match (← get).rest with
  | .ident s :: _ =>
    if isKeyword s then fail ("expected identifier, found keyword " ++ "`" ++ s ++ "`")
    else take 1
  | _ => fail "expected identifier"

/-- Takes a word of any kind. -/
def anyIdent : Reader (List Token) := do
  if ← peekWith Tokens.startsAnyIdent then take 1 else fail "expected ident"

/-- Takes a lifetime. -/
def lifetime : Reader (List Token) := do
  match (← get).rest with
  | .punct '\'' .joint :: .ident s :: _ =>
    let _ ← take 2
    return Token.lifetime s
  | _ => fail "expected lifetime"

/-- Takes a literal, a minus sign and a number as one literal; gives back its text. -/
def literal : Reader String := do
  match (← get).rest with
  | .literal t :: _ => let _ ← take 1; return t
  | .ident "true" :: _ => let _ ← take 1; return "true"
  | .ident "false" :: _ => let _ ← take 1; return "false"
  | .punct '-' _ :: .literal t :: _ =>
    if Tokens.isNumber t then let _ ← take 2; return "-" ++ t else fail "expected literal"
  | _ => fail "expected literal"

/-- Takes a group of any delimiter, as it was written. -/
def anyGroup : Reader Token := do
  match (← get).rest with
  | t@(.group _ _) :: _ => let _ ← take 1; return t
  | _ => fail "expected delimiter"

/-- Reads the contents of a group with the delimiter `d` by `inner`, which need not read
them to the end: leftovers are remembered for the report at the end. -/
def delimited {α : Type} (d : Delimiter) (inner : Reader α) : Reader α := do
  match (← get).rest with
  | .group d' contents :: more =>
    if d' = d then
      let s ← get
      match inner.run ⟨contents, s.pending⟩ with
      | .error e => throw e
      | .ok (a, after) =>
        let leftover : Option String :=
          if after.rest.isEmpty then none
          else some ("unexpected token, expected " ++ "`" ++ d.marks.2 ++ "`")
        set ({ rest := more, pending := after.pending.orElse fun _ => leftover } : ReadState)
        return a
    else fail d.expectation
  | _ => fail d.expectation

/-- A bound on the steps of a loop that takes a token in each: the tokens left, and one. -/
def steps : Reader Nat := do
  return (← get).rest.length + 1

/-- Runs `step` again and again while it gives something, at most `fuel` times. -/
def repeatSome {β : Type} : Nat → Reader (Option β) → Reader (List β)
  | 0, _ => pure []
  | n + 1, step => do
    match ← step with
    | none => return []
    | some b => return b :: (← repeatSome n step)

/-- Runs a reader without taking anything: its result if it succeeds. -/
def attempt {α : Type} (r : Reader α) : Reader (Option α) := do
  let s ← get
  match r.run s with
  | .ok (a, _) => return some a
  | .error _ => return none

/-- Runs a reader on tokens, which it must read to the end; a group left unread is
reported first. -/
def runAll {α : Type} (r : Reader α) (ts : List Token) : Except SyntaxError α := do
  let (a, s) ← r.run ⟨ts, none⟩
  match s.pending with
  | some text => throw ⟨text, false⟩
  | none => if s.rest.isEmpty then pure a else throw ⟨"unexpected token", false⟩

/-- The tokens a reader took, as they were written. -/
def written {α : Type} (r : Reader α) : Reader (α × List Token) := do
  let before := (← get).rest
  let a ← r
  let after := (← get).rest
  return (a, before.take (before.length - after.length))

end Reader

end Derive

end RecordQuery
