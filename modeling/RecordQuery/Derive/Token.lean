/-!
# Token trees of Rust source

Source text is read as a tree of tokens: identifiers (a raw one keeps its `r#`), literals
kept as written, single punctuation characters, and groups in parentheses, brackets or
braces. A punctuation character is joint when another one follows it without a gap, and
alone otherwise; `::` is two joint-then-alone colons, and a lifetime `'a` is a joint
apostrophe before an identifier.

Tokens are written back one after another with single spaces between them, except that
nothing separates a joint punctuation character from what follows. A group writes its
delimiters around its contents, braces with a space inside: `Vec < String >`, `& 'a str`,
`:: std :: vec :: Vec < T >`, `\x7b a += 1 \x7d`.
-/

namespace RecordQuery

namespace Derive

/-- The delimiter of a group. -/
inductive Delimiter where
  | paren
  | bracket
  | brace
deriving DecidableEq

/-- Whether a punctuation character is followed by another without a gap. -/
inductive Spacing where
  | alone
  | joint
deriving DecidableEq

/-- A token tree of Rust source. -/
inductive Token where
  /-- An identifier or keyword; a raw identifier keeps its `r#`. -/
  | ident (name : String)
  /-- One punctuation character. -/
  | punct (c : Char) (spacing : Spacing)
  /-- A literal, as written, its suffix included. -/
  | literal (text : String)
  /-- A delimited group. -/
  | group (delim : Delimiter) (inner : List Token)

namespace Token

/-- The tokens of an operator: its characters, each but the last joint to the next. -/
def operator : List Char → List Token
  | [] => []
  | [c] => [.punct c .alone]
  | c :: cs => .punct c .joint :: operator cs

/-- The tokens of a lifetime: a joint apostrophe and the name. -/
def lifetime (name : String) : List Token :=
  [.punct '\'' .joint, .ident name]

/-- Whether a token is a joint punctuation character. -/
def isJoint : Token → Bool
  | .punct _ .joint => true
  | _ => false

end Token

/-- The opening and closing text of a group with the given delimiter. -/
def Delimiter.marks : Delimiter → String × String
  | .paren => ("(", ")")
  | .bracket => ("[", "]")
  | .brace => ("\x7b", "\x7d")

mutual

/-- The text of a token. -/
def Token.render : Token → String
  | .ident s => s
  | .punct c _ => String.singleton c
  | .literal t => t
  | .group .brace [] => "\x7b \x7d"
  | .group .brace (t :: ts) => "\x7b " ++ renderSeq true (t :: ts) ++ " \x7d"
  | .group d ts => d.marks.1 ++ renderSeq true ts ++ d.marks.2

/-- The text of tokens in sequence; `glued` says that no space goes before the first one
(at the start of a sequence, or after a joint punctuation character). -/
def renderSeq : Bool → List Token → String
  | _, [] => ""
  | glued, t :: ts => (if glued then "" else " ") ++ t.render ++ renderSeq t.isJoint ts

end

/-- The text of a token list: single spaces between tokens, none after a joint
punctuation character. -/
def renderList (ts : List Token) : String := renderSeq true ts

end Derive

end RecordQuery
