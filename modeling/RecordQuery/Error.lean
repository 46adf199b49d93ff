import RecordQuery.Value.Kind
import RecordQuery.Operator
import RecordQuery.Log

/-!
# Query errors

Everything that can go wrong when decoding, compiling or applying a query is one of four
causes: a field the record does not have, an operator (or sorting) that the field's kind or
the literal does not allow, a filter text that cannot be split into field, operator and
value, and a second override for one field. `QueryError.message` gives the wording of each.

A computation that reports log lines and may fail runs in `Checked`; the lines reported
before a failure are kept.
-/

namespace RecordQuery

/-- Why an operator, or sorting, cannot be used on a field. -/
inductive Unsupported where
  /-- An order comparison on a kind without order. -/
  | noOrdering
  /-- A comparison on a collection field. -/
  | collectionCompared
  /-- A literal of this kind cannot be brought to the field's kind. -/
  | incomparable (literal : ValueKind)
  /-- Containment with an array literal. -/
  | arrayNeedsIn
  /-- Containment on a field that is neither text nor a list. -/
  | notTextOrCollection
  /-- Membership with a literal that is not an array. -/
  | notArray
  /-- Membership on a collection field. -/
  | collectionMember
  /-- Starting or ending with, on a field that is not text. -/
  | notText
  /-- Starting or ending with an array literal. -/
  | notScalar
  /-- Sorting by a collection field. -/
  | collectionSortKey

/-- The wording of a reason. -/
def Unsupported.message : Unsupported → String
  | .noOrdering => "kind has no ordering"
  | .collectionCompared => "collections cannot be compared"
  | .incomparable k => "value of kind " ++ k.toText ++ " is not comparable"
  | .arrayNeedsIn => "an array value needs the in operator"
  | .notTextOrCollection => "field is neither text nor a collection"
  | .notArray => "value must be an array"
  | .collectionMember => "collections cannot be set members"
  | .notText => "field is not text"
  | .notScalar => "value must be scalar"
  | .collectionSortKey => "collections cannot be sort keys"

/-- Why a filter text cannot be decoded. -/
inductive Malformed where
  | noOperatorToken
  | emptyFieldName
  | invalidPercentEncoding

/-- The wording of a reason. -/
def Malformed.message : Malformed → String
  | .noOperatorToken => "no operator token"
  | .emptyFieldName => "empty field name"
  | .invalidPercentEncoding => "invalid percent-encoding"

/-- What a query can fail with. -/
inductive QueryError where
  /-- The record type named `record` has no field `field`. -/
  | unknownField (field record : String)
  /-- The filter operator (`none` for sorting) cannot be used on the field. -/
  | unsupportedOperator (field : String) (op : Option FilterOperator) (kind : ValueKind)
      (reason : Unsupported)
  /-- The text `input` is not a filter or not a percent-encoded text. -/
  | malformedFilter (input : String) (reason : Malformed)
  /-- A second override for the field in one set. -/
  | duplicateOverride (field : String)

namespace QueryError

/-- The name of the cause. -/
def kindName : QueryError → String
  | .unknownField .. => "UnknownField"
  | .unsupportedOperator .. => "UnsupportedOperator"
  | .malformedFilter .. => "MalformedFilter"
  | .duplicateOverride .. => "DuplicateOverride"

/-- The wording of an error. -/
def message : QueryError → String
  | .unknownField f r => "field '" ++ f ++ "' does not exist on " ++ r
  | .unsupportedOperator f op k reason =>
    "operator '" ++ (match op with
      | some o => o.name
      | none => "order") ++ "' is not supported on field '" ++ f ++ "' of kind " ++ k.toText ++
      ": " ++ reason.message
  | .malformedFilter i reason => "malformed filter '" ++ i ++ "': " ++ reason.message
  | .duplicateOverride f => "an override for field '" ++ f ++ "' is already registered"

end QueryError

/-- A computation that reports log lines and may fail with a query error. -/
abbrev Checked (α : Type) : Type := ExceptT QueryError Logged α

/-- Fails with a query error. -/
def Checked.fail {α : Type} (e : QueryError) : Checked α := ExceptT.mk (pure (.error e))

/-- Runs a reporting computation that cannot fail. -/
def Checked.lift {α : Type} (x : Logged α) : Checked α := ExceptT.lift x

end RecordQuery
