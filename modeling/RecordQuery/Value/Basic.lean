import RecordQuery.Value.Kind
import RecordQuery.Number.Int128
import RecordQuery.Binary.Shortest
import RecordQuery.Uuid
import RecordQuery.Duration
import RecordQuery.Calendar.Timestamp

/-!
# Values and field values

A `Value` is what a filter compares against: a scalar of one of seven kinds, or an array of
values. A `FieldValue` is what a record shows for a field: a scalar, a list of field values,
or null for an absent optional field.

The natural text of a value writes scalars in their own text forms. An array is written
in brackets with its items separated by commas; a comma inside the text of a scalar item
is written `\,`, while nested arrays are written as they are. The value reader in
`Value.Parse` undoes this, so that reading the text of a value gives the value back in all
but a few corner cases.

Equality of values follows the equality of their scalars: floats compare as IEEE numbers,
so NaN differs from itself and the two zeros are equal.
-/

namespace RecordQuery

/-- A filter operand: a scalar or an array of values. -/
inductive Value where
  | integer (n : Int128)
  | float (x : Binary64)
  | boolean (b : Bool)
  | uuid (u : Uuid)
  | duration (d : Duration)
  | timestamp (t : Timestamp)
  | text (s : String)
  | array (items : List Value)

/-- What a record shows for a field: a scalar, a list, or null. -/
inductive FieldValue where
  | integer (n : Int128)
  | float (x : Binary64)
  | boolean (b : Bool)
  | uuid (u : Uuid)
  | duration (d : Duration)
  | timestamp (t : Timestamp)
  | text (s : String)
  | list (items : List FieldValue)
  | null

namespace Value

/-- The kind of a value; an array takes the kind of its first element. -/
def kind : Value → ValueKind
  | .integer _ => .integer
  | .float _ => .float
  | .boolean _ => .boolean
  | .uuid _ => .uuid
  | .duration _ => .duration
  | .timestamp _ => .timestamp
  | .text _ => .text
  | .array [] => .array
  | .array (v :: _) => .arrayOf v.kind

/-- Is an array. -/
def isArray : Value → Bool
  | .array _ => true
  | _ => false

/-- Is a text. -/
def isText : Value → Bool
  | .text _ => true
  | _ => false

/-- The text, for a text value. -/
def asText? : Value → Option String
  | .text s => some s
  | _ => none

/-- The items, for an array value. -/
def asArray? : Value → Option (List Value)
  | .array items => some items
  | _ => none

/-- The text of a boolean. -/
def boolText (b : Bool) : String := if b then "true" else "false"

/-- The text of a scalar; empty for an array, which `toText` writes itself. -/
def scalarText : Value → String
  | .integer n => n.toText
  | .float x => x.toText
  | .boolean b => boolText b
  | .uuid u => u.toText
  | .duration d => d.toText
  | .timestamp t => t.toText
  | .text s => s
  | .array _ => ""

/-- Writes each comma of a text as `\,`. -/
def escapeCommas (s : String) : String :=
  String.ofList (s.toList.flatMap fun c => if c = ',' then ['\\', ','] else [c])

mutual

/-- The natural text of a value. -/
def toText : Value → String
  | .array items => "[" ++ itemsText items ++ "]"
  | v => scalarText v

/-- The items of an array, separated by commas. -/
def itemsText : List Value → String
  | [] => ""
  | [v] => itemText v
  | v :: rest => itemText v ++ "," ++ itemsText rest

/-- An item of an array: a scalar with its commas escaped, a nested array as it is. -/
def itemText : Value → String
  | .array inner => "[" ++ itemsText inner ++ "]"
  | other => escapeCommas other.scalarText

end

mutual

/-- Equality of values: IEEE equality on floats, item by item on arrays. -/
def beq : Value → Value → Bool
  | .integer a, .integer b => a.val == b.val
  | .float a, .float b => a.ieeeEq b
  | .boolean a, .boolean b => a == b
  | .uuid a, .uuid b => a == b
  | .duration a, .duration b => a.nanos == b.nanos
  | .timestamp a, .timestamp b => a == b
  | .text a, .text b => a == b
  | .array a, .array b => beqList a b
  | _, _ => false

/-- Equality of value lists, item by item. -/
def beqList : List Value → List Value → Bool
  | [], [] => true
  | a :: as, b :: bs => beq a b && beqList as bs
  | _, _ => false

end

mutual

/-- The same value as a field value; arrays become lists. -/
def asField : Value → FieldValue
  | .integer n => .integer n
  | .float x => .float x
  | .boolean b => .boolean b
  | .uuid u => .uuid u
  | .duration d => .duration d
  | .timestamp t => .timestamp t
  | .text s => .text s
  | .array items => .list (asFieldList items)

/-- Each value as a field value. -/
def asFieldList : List Value → List FieldValue
  | [] => []
  | v :: rest => asField v :: asFieldList rest

end

end Value

namespace FieldValue

/-- Is null. -/
def isNull : FieldValue → Bool
  | .null => true
  | _ => false

/-- The text, for a text field value. -/
def asText? : FieldValue → Option String
  | .text s => some s
  | _ => none

/-- The items, for a list field value. -/
def asList? : FieldValue → Option (List FieldValue)
  | .list items => some items
  | _ => none

mutual

/-- The value of a field value: null has none, and a list drops its null items. -/
def toValue? : FieldValue → Option Value
  | .integer n => some (.integer n)
  | .float x => some (.float x)
  | .boolean b => some (.boolean b)
  | .uuid u => some (.uuid u)
  | .duration d => some (.duration d)
  | .timestamp t => some (.timestamp t)
  | .text s => some (.text s)
  | .list items => some (.array (toValues items))
  | .null => none

/-- The values of the items that are not null, in order. -/
def toValues : List FieldValue → List Value
  | [] => []
  | v :: rest =>
    match toValue? v with
    | some x => x :: toValues rest
    | none => toValues rest

end

end FieldValue

end RecordQuery
