import RecordQuery.Value.Basic
import RecordQuery.Value.Elements
import RecordQuery.Binary.Read
import RecordQuery.Calendar.Read
import RecordQuery.Log

/-!
# Reading values from text

A text is read as the first of these that accepts it: an integer, a finite float, a boolean
(`true` or `false` in any case), a UUID, a duration, a timestamp, an array, and last the
text itself with blanks trimmed, which always accepts. Scalars are read from the trimmed
text.

An array text is split into elements (see `Elements`). An array without elements is read
at once. Otherwise the readings are tried in the same order on all elements together: the
first reading that accepts every element fixes the type of all items, so the items of a read
array are of one kind. Reading an element as an array recurses into it; each element is
shorter than its array, so reading ends.

Reading reports a trace line for each value read, `parsed 'TEXT' as KIND`, and one for each
non-empty array read, `parsed array of N elements as KIND`, after the lines of its elements.

`Value.readAsText` reads everything as text instead, only splitting arrays.
-/

namespace RecordQuery

/-- The ways a text can be read as a value, in the order they are tried. -/
inductive Reading where
  | integer
  | float
  | boolean
  | uuid
  | duration
  | timestamp
  | array
  | text
deriving DecidableEq

namespace Reading

/-- All readings, in the order they are tried. -/
def all : List Reading :=
  [.integer, .float, .boolean, .uuid, .duration, .timestamp, .array, .text]

/-- The name of a reading in log lines. -/
def name : Reading → String
  | .integer => "integer"
  | .float => "float"
  | .boolean => "boolean"
  | .uuid => "uuid"
  | .duration => "duration"
  | .timestamp => "timestamp"
  | .array => "array"
  | .text => "text"

/-- The boolean spelled by a word, in any ASCII case. -/
def boolean? (cs : List Char) : Option Bool :=
  let w := cs.map DecimalLiteral.lowerAscii
  if w = "true".toList then some true
  else if w = "false".toList then some false
  else none

/-- Reads a text as a scalar in this way. The `array` reading reads nothing here; arrays are
read by `readArray`. -/
def scalar? : Reading → List Char → Option Value
  | .integer, cs => (Int128.read? (Text.trimChars cs)).map .integer
  | .float, cs =>
    match Binary64.read? (Text.trimChars cs) with
    | some x => if x.isFinite then some (.float x) else none
    | none => none
  | .boolean, cs => (boolean? (Text.trimChars cs)).map .boolean
  | .uuid, cs => (Uuid.read? (Text.trimChars cs)).map .uuid
  | .duration, cs => (Duration.read? cs).map .duration
  | .timestamp, cs => (Timestamp.read? cs).map .timestamp
  | .array, _ => none
  | .text, cs => some (.text (String.ofList (Text.trimChars cs)))

/-- The first reading of the list for which `f` gives a result, with that result. -/
def firstOf {α : Type} : List Reading → (Reading → Logged (Option α)) →
    Logged (Option (Reading × α))
  | [], _ => pure none
  | r :: rs, f => do
    match ← f r with
    | some a => pure (some (r, a))
    | none => firstOf rs f

end Reading

/-- Applies `f` to each item in turn and collects the results, stopping at the first item
for which `f` gives nothing. -/
def collectAll {α β : Type} : List α → (α → Logged (Option β)) → Logged (Option (List β))
  | [], _ => pure (some [])
  | a :: rest, f => do
    match ← f a with
    | some b =>
      match ← collectAll rest f with
      | some bs => pure (some (b :: bs))
      | none => pure none
    | none => pure none

/-- Reads an array text: its elements all in the first reading that accepts all of them. -/
def readArray (cs : List Char) : Logged (Option Value) :=
  match h : Elements.elements? cs with
  | none => pure none
  | some [] => pure (some (.array []))
  | some es => do
    let found ← Reading.firstOf Reading.all fun r =>
      collectAll es.attach fun ⟨e, he⟩ =>
        match r with
        | .array =>
          have := Elements.length_lt_of_mem_elements? h he
          readArray e
        | other => pure (other.scalar? e)
    match found with
    | some (r, items) => do
      Logged.trace ("parsed array of " ++ Decimal.natText es.length ++ " elements as " ++ r.name)
      pure (some (.array items))
    | none => pure none
termination_by cs.length

namespace Value

/-- Reads a text as a value, reporting what was read. -/
def readLogged (s : String) : Logged Value := do
  let cs := s.toList
  let found ← Reading.firstOf Reading.all fun r =>
    match r with
    | .array => readArray cs
    | other => pure (other.scalar? cs)
  match found with
  | some (r, v) => do
    Logged.trace ("parsed '" ++ s ++ "' as " ++ r.name)
    pure v
  | none => pure (.text (Text.trim s))

/-- Reads a text as a value. -/
def read (s : String) : Value := (readLogged s).value

/-- Reads a text as text only: an array text becomes an array of texts read the same way,
any other text is trimmed. -/
def readCharsAsText (cs : List Char) : Value :=
  match h : Elements.elements? cs with
  | some es =>
    .array (es.attach.map fun ⟨e, he⟩ =>
      have := Elements.length_lt_of_mem_elements? h he
      readCharsAsText e)
  | none => .text (String.ofList (Text.trimChars cs))
termination_by cs.length

/-- Reads a text as text only, splitting arrays. -/
def readAsText (s : String) : Value := readCharsAsText s.toList

end Value

end RecordQuery
