import RecordQuery.Registry.FieldType
import RecordQuery.Text.Quote

/-!
# Queryable record types

A record type is queryable when it lists its queryable fields: each has a name, a kind and
an accessor that shows the field of a record as a field value. The list is in declaration
order and its names are distinct, so looking a name up finds at most one field.
-/

namespace RecordQuery

/-- A queryable field of records of type `α`. -/
structure Field (α : Type) where
  name : String
  kind : ValueKind
  get : α → FieldValue

namespace Field

/-- The field called `name` that reads a value of a field type from a record. -/
def of {α β : Type} [FieldType β] (name : String) (f : α → β) : Field α :=
  ⟨name, FieldType.kind β, fun r => FieldType.toField (f r)⟩

/-- The description `Field { name: "N", kind: K }`. -/
def describe {α : Type} (f : Field α) : String :=
  "Field \x7b name: " ++ Text.quote f.name ++ ", kind: " ++ f.kind.toDebugText ++ " \x7d"

end Field

/-- A record type with its queryable fields. -/
class Queryable (α : Type) where
  /-- The name of the record type in messages. -/
  recordName : String
  /-- The queryable fields, in declaration order. -/
  fields : List (Field α)

namespace Queryable

/-- The field with this name. -/
def field? (α : Type) [Queryable α] (name : String) : Option (Field α) :=
  (fields (α := α)).find? (·.name == name)

/-- The names of the queryable fields, in declaration order. -/
def fieldNames (α : Type) [Queryable α] : List String :=
  (fields (α := α)).map (·.name)

/-- What a record shows for the field with this name. -/
def fieldValue? {α : Type} [Queryable α] (r : α) (name : String) : Option FieldValue :=
  (field? α name).map fun f => f.get r

end Queryable

end RecordQuery
