import RecordQuery.Text.Case

/-!
# Renaming fields

A rename rule turns a field name written in snake case into the name that queries use:
`PascalCase` capitalises each part between underscores and drops the underscores (and
empty parts), `camelCase` does the same and then lower-cases the first character, and
`snake_case` keeps the name. Case is changed by the full Unicode mappings, so one
character may become two (`ß` capitalises to `SS`).

Constants are named in screaming snake case: an upper-case letter that follows a lower-case
one gets an underscore before it, `_` and `-` become `_`, and every other character is
upper-cased if it is an ASCII letter.
-/

namespace RecordQuery

namespace Derive

/-- A rule that renames every field. -/
inductive RenameRule where
  | pascalCase
  | camelCase
  | snakeCase
deriving DecidableEq

namespace RenameRule

/-- The rule that a text names. -/
def ofText? : String → Option RenameRule
  | "PascalCase" => some .pascalCase
  | "camelCase" => some .camelCase
  | "snake_case" => some .snakeCase
  | _ => none

/-- A part with its first character upper-cased. -/
def capitalize : List Char → List Char
  | [] => []
  | c :: rest => Text.upperChar c ++ rest

/-- The parts between underscores, capitalised and joined. -/
def pascal (cs : List Char) : List Char :=
  ((cs.splitOn '_').filter (!·.isEmpty)).flatMap capitalize

/-- The name that the rule gives a field. -/
def apply (rule : RenameRule) (field : String) : String :=
  match rule with
  | .snakeCase => field
  | .pascalCase => String.ofList (pascal field.toList)
  | .camelCase =>
    match pascal field.toList with
    | [] => ""
    | c :: rest => String.ofList (Text.lowerChar c ++ rest)

end RenameRule

/-- The ASCII upper case of a character; others are kept. -/
def asciiUpper (c : Char) : Char :=
  if 'a' ≤ c && c ≤ 'z' then Char.ofNat (c.toNat - 32) else c

/-- Screaming snake case of the rest of a name, given whether the character before it
counted as lower case. -/
def screamingSnakeAux : Bool → List Char → List Char
  | _, [] => []
  | afterLower, c :: rest =>
    if Text.isUpper c then
      (if afterLower then ['_', c] else [c]) ++ screamingSnakeAux false rest
    else if c = '_' || c = '-' then '_' :: screamingSnakeAux false rest
    else asciiUpper c :: screamingSnakeAux true rest

/-- The screaming snake case of a name. -/
def screamingSnake (s : String) : String :=
  String.ofList (screamingSnakeAux false s.toList)

end Derive

end RecordQuery
