import RecordQuery.Text.CaseTable
import RecordQuery.Text.CasedTable
import RecordQuery.Text.Chars

/-!
# Letter case

A character changes case by the full Unicode mappings of the case tables: one character may
become two or three (sharp s upper-cases to `SS`, capital I with dot above lower-cases to `i`
and a combining dot). A character is upper case when it has the property Uppercase.

Lower-casing a text maps each character on its own, except capital sigma, which becomes the
final form `ς` at the end of a word: when a cased letter comes before it and none after it,
case-ignorable characters (apostrophes, points, combining marks) skipped on both sides.
-/

namespace RecordQuery

namespace Text

/-- The image of a character under a case table: its expansion if it has one, else the
offset of the run that holds it; a character in neither maps to itself. -/
def mapCase (runs : List CaseRun) (expansions : List (Nat × List Nat)) (c : Char) :
    List Char :=
  match expansions.lookup c.toNat with
  | some ns => ns.map Char.ofNat
  | none =>
    match runs.find? (·.holds c.toNat) with
    | some r => [Char.ofNat (c.toNat + r.delta).toNat]
    | none => [c]

/-- The lower case of one character. -/
def lowerChar (c : Char) : List Char := mapCase lowerRuns lowerExpansions c

/-- The upper case of one character. -/
def upperChar (c : Char) : List Char := mapCase upperRuns upperExpansions c

/-- Upper-case characters: those with the property Uppercase. -/
def isUpper (c : Char) : Bool := uppercaseRuns.any (·.holds c.toNat)

/-- Cased characters: those with the property Cased. -/
def isCased (c : Char) : Bool := inRanges casedRanges c.toNat

/-- Case-ignorable characters: those with the property Case_Ignorable. -/
def isCaseIgnorable (c : Char) : Bool := inRanges caseIgnorableRanges c.toNat

/-- Whether, skipping case-ignorable characters, the next character is cased. -/
def casedAhead (cs : List Char) : Bool :=
  match cs.dropWhile isCaseIgnorable with
  | c :: _ => isCased c
  | [] => false

/-- The lower case of the characters after `before` (reversed), capital sigma taking its
final form at the end of a word. -/
def lowerAfter : List Char → List Char → List Char
  | _, [] => []
  | before, c :: rest =>
    let image :=
      if c.toNat = 0x3A3 then
        if casedAhead before && !casedAhead rest then [Char.ofNat 0x3C2] else [Char.ofNat 0x3C3]
      else lowerChar c
    image ++ lowerAfter (c :: before) rest

/-- The lower case of a text. -/
def toLower (s : String) : String := String.ofList (lowerAfter [] s.toList)

/-- The upper case of a text. -/
def toUpper (s : String) : String := String.ofList (s.toList.flatMap upperChar)

end Text

end RecordQuery
