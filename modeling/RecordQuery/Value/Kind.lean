/-!
# Kinds of values

A kind names what a field or value holds: one of seven scalars, an array (whose element kind
is known only when it has a first element), or a list of a kind. Kinds decide which
operators a filter may use: scalars compare, all scalars but booleans have an order, and
only scalars can be sort keys.
-/

namespace RecordQuery

/-- What a field or value holds. -/
inductive ValueKind where
  | integer
  | float
  | boolean
  | uuid
  | duration
  | timestamp
  | text
  /-- An array value without elements, whose element kind is unknown. -/
  | array
  /-- An array value whose first element has the given kind. -/
  | arrayOf (element : ValueKind)
  /-- A collection field whose elements have the given kind. -/
  | list (element : ValueKind)
deriving DecidableEq

namespace ValueKind

/-- Neither an array nor a list. -/
def isScalar : ValueKind → Bool
  | .array | .arrayOf _ | .list _ => false
  | _ => true

/-- Integers and floats. -/
def isNumeric : ValueKind → Bool
  | .integer | .float => true
  | _ => false

/-- Scalars other than booleans have an order for filters. -/
def isOrderable (k : ValueKind) : Bool := k.isScalar && k != .boolean

/-- Scalars can be sort keys. -/
def isSortable (k : ValueKind) : Bool := k.isScalar

/-- The name of a kind: `integer`, …, `array`, `array of K`, `list of K`. -/
def toText : ValueKind → String
  | .integer => "integer"
  | .float => "float"
  | .boolean => "boolean"
  | .uuid => "uuid"
  | .duration => "duration"
  | .timestamp => "timestamp"
  | .text => "text"
  | .array => "array"
  | .arrayOf k => "array of " ++ k.toText
  | .list k => "list of " ++ k.toText

/-- The structural text of a kind: `Integer`, `Array(None)`, `Array(Some(Text))`,
`List(Text)`. -/
def toDebugText : ValueKind → String
  | .integer => "Integer"
  | .float => "Float"
  | .boolean => "Boolean"
  | .uuid => "Uuid"
  | .duration => "Duration"
  | .timestamp => "Timestamp"
  | .text => "Text"
  | .array => "Array(None)"
  | .arrayOf k => "Array(Some(" ++ k.toDebugText ++ "))"
  | .list k => "List(" ++ k.toDebugText ++ ")"

/-- The kind named by a text, the inverse of `toText`. -/
def ofText? (s : String) : Option ValueKind :=
  go s.toList s.length
where
  /-- Reads a kind name, with `fuel` bounding the nesting. -/
  go (cs : List Char) : Nat → Option ValueKind
    | 0 => none
    | fuel + 1 =>
      if cs = "integer".toList then some .integer
      else if cs = "float".toList then some .float
      else if cs = "boolean".toList then some .boolean
      else if cs = "uuid".toList then some .uuid
      else if cs = "duration".toList then some .duration
      else if cs = "timestamp".toList then some .timestamp
      else if cs = "text".toList then some .text
      else if cs = "array".toList then some .array
      else if cs.take 9 = "array of ".toList then (go (cs.drop 9) fuel).map .arrayOf
      else if cs.take 8 = "list of ".toList then (go (cs.drop 8) fuel).map .list
      else none

end ValueKind

end RecordQuery
