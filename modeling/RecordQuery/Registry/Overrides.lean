import RecordQuery.Registry.Schema
import RecordQuery.Error
import RecordQuery.Order

/-!
# Overrides

An override replaces how a field is read, for filters or for sort keys separately: it has
the field's name, a kind, and a function from records to a value or nothing (null). The
value of a field type passes through its field value, so a list loses its null items.

An override set holds at most one override per field in each of its two parts; registering
a second one for a field fails and leaves the set as it was.
-/

namespace RecordQuery

/-- A replacement reader for one field. -/
structure Override (α : Type) where
  field : String
  kind : ValueKind
  value : α → Option Value

namespace Override

/-- The override of `field` that reads a value of a field type from a record. -/
def of {α β : Type} [FieldType β] (field : String) (f : α → β) : Override α :=
  ⟨field, FieldType.kind β, fun r => (FieldType.toField (f r)).toValue?⟩

/-- What the override shows for a record. -/
def read {α : Type} (o : Override α) (r : α) : FieldValue :=
  match o.value r with
  | some v => v.asField
  | none => .null

/-- The description `Override { field: "F", kind: K, .. }`. -/
def describe {α : Type} (o : Override α) : String :=
  "Override \x7b field: " ++ Text.quote o.field ++ ", kind: " ++ o.kind.toDebugText ++ ", .. \x7d"

end Override

/-- The two parts of an override set. -/
inductive OverridePart where
  | filter
  | order
deriving DecidableEq

/-- Overrides for filters and for sort keys, at most one per field in each. -/
structure Overrides (α : Type) where
  filter : List (Override α) := []
  order : List (Override α) := []

namespace Overrides

/-- The overrides of one part. -/
def part {α : Type} (s : Overrides α) : OverridePart → List (Override α)
  | .filter => s.filter
  | .order => s.order

/-- The override of a field in one part. -/
def find? {α : Type} (s : Overrides α) (p : OverridePart) (field : String) : Option (Override α) :=
  (s.part p).find? (·.field == field)

/-- Registers an override in one part; fails if the field already has one there. -/
def add {α : Type} (s : Overrides α) (p : OverridePart) (o : Override α) :
    Except QueryError (Overrides α) :=
  if ((s.part p).any (·.field == o.field)) then .error (.duplicateOverride o.field)
  else
    match p with
    | .filter => .ok { s with filter := s.filter ++ [o] }
    | .order => .ok { s with order := s.order ++ [o] }

/-- No override in either part. -/
def isEmpty {α : Type} (s : Overrides α) : Bool := s.filter.isEmpty && s.order.isEmpty

/-- Names sorted by code points. -/
def sortedNames (names : List String) : List String :=
  names.mergeSort fun a b => compareText a b != .gt

/-- A list of quoted names, `["A", "B"]`. -/
def namesText (names : List String) : String :=
  "[" ++ ", ".intercalate (names.map Text.quote) ++ "]"

/-- The description `Overrides { filter: [..], order: [..] }`, names sorted. -/
def describe {α : Type} (s : Overrides α) : String :=
  "Overrides \x7b filter: " ++ namesText (sortedNames (s.filter.map (·.field))) ++
    ", order: " ++ namesText (sortedNames (s.order.map (·.field))) ++ " \x7d"

end Overrides

end RecordQuery
