import RecordQuery.Value.Basic

/-!
# Types that fields can have

`FieldType β` says that a field of type `β` can be queried: it fixes the kind of such a
field and how a field value is shown. Every integer type shows as an integer, both float
widths as a double (a single widened exactly), booleans, texts, UUIDs, durations and
timestamps as themselves, a date as the timestamp of its midnight, and an instant in UTC as
the timestamp of its date and time of day in UTC. A list shows as a list of its elements'
field values, and an optional value as its content or null; an optional field has the kind
of its content.

`ToValue β` turns a value of type `β` into a filter literal; lists and fixed-size vectors
become arrays. A fixed-size vector is a literal only: it is no field type.
-/

namespace RecordQuery

/-- Types that record fields can have. -/
class FieldType (β : Type) where
  /-- The kind of a field of this type. -/
  kind : ValueKind
  /-- How a field holding `b` shows. -/
  toField : β → FieldValue

/-- Types whose values can be filter literals. -/
class ToValue (β : Type) where
  toValue : β → Value

/-- The integer value of a number in range. -/
def Value.ofInt (n : Int) : Value :=
  match Int128.ofInt? n with
  | some m => .integer m
  | none => .integer Int128.zero

/-- The field value of a number in range. -/
def FieldValue.ofInt (n : Int) : FieldValue :=
  match Int128.ofInt? n with
  | some m => .integer m
  | none => .integer Int128.zero

instance : FieldType Int128 := ⟨.integer, .integer⟩
instance : ToValue Int128 := ⟨.integer⟩
instance : FieldType Int8 := ⟨.integer, fun n => FieldValue.ofInt n.toInt⟩
instance : ToValue Int8 := ⟨fun n => Value.ofInt n.toInt⟩
instance : FieldType Int16 := ⟨.integer, fun n => FieldValue.ofInt n.toInt⟩
instance : ToValue Int16 := ⟨fun n => Value.ofInt n.toInt⟩
instance : FieldType Int32 := ⟨.integer, fun n => FieldValue.ofInt n.toInt⟩
instance : ToValue Int32 := ⟨fun n => Value.ofInt n.toInt⟩
instance : FieldType Int64 := ⟨.integer, fun n => FieldValue.ofInt n.toInt⟩
instance : ToValue Int64 := ⟨fun n => Value.ofInt n.toInt⟩
instance : FieldType ISize := ⟨.integer, fun n => FieldValue.ofInt n.toInt⟩
instance : ToValue ISize := ⟨fun n => Value.ofInt n.toInt⟩
instance : FieldType UInt8 := ⟨.integer, fun n => FieldValue.ofInt n.toNat⟩
instance : ToValue UInt8 := ⟨fun n => Value.ofInt n.toNat⟩
instance : FieldType UInt16 := ⟨.integer, fun n => FieldValue.ofInt n.toNat⟩
instance : ToValue UInt16 := ⟨fun n => Value.ofInt n.toNat⟩
instance : FieldType UInt32 := ⟨.integer, fun n => FieldValue.ofInt n.toNat⟩
instance : ToValue UInt32 := ⟨fun n => Value.ofInt n.toNat⟩
instance : FieldType UInt64 := ⟨.integer, fun n => FieldValue.ofInt n.toNat⟩
instance : ToValue UInt64 := ⟨fun n => Value.ofInt n.toNat⟩
instance : FieldType USize := ⟨.integer, fun n => FieldValue.ofInt n.toNat⟩
instance : ToValue USize := ⟨fun n => Value.ofInt n.toNat⟩
instance : FieldType Binary64 := ⟨.float, .float⟩
instance : ToValue Binary64 := ⟨.float⟩
instance : FieldType Binary32 := ⟨.float, fun x => .float x.toBinary64⟩
instance : ToValue Binary32 := ⟨fun x => .float x.toBinary64⟩
instance : FieldType Bool := ⟨.boolean, .boolean⟩
instance : ToValue Bool := ⟨.boolean⟩
instance : FieldType String := ⟨.text, .text⟩
instance : ToValue String := ⟨.text⟩
instance : FieldType Uuid := ⟨.uuid, .uuid⟩
instance : ToValue Uuid := ⟨.uuid⟩
instance : FieldType Duration := ⟨.duration, .duration⟩
instance : ToValue Duration := ⟨.duration⟩
instance : FieldType Timestamp := ⟨.timestamp, .timestamp⟩
instance : ToValue Timestamp := ⟨.timestamp⟩
instance : FieldType Date := ⟨.timestamp, fun d => .timestamp (Timestamp.atMidnight d)⟩
instance : ToValue Date := ⟨fun d => .timestamp (Timestamp.atMidnight d)⟩
instance : FieldType UtcTimestamp := ⟨.timestamp, fun t => .timestamp t.utc⟩
instance : ToValue UtcTimestamp := ⟨fun t => .timestamp t.utc⟩

instance {β : Type} [FieldType β] : FieldType (List β) :=
  ⟨.list (FieldType.kind β), fun xs => .list (xs.map FieldType.toField)⟩

instance {β : Type} [ToValue β] : ToValue (List β) := ⟨fun xs => .array (xs.map ToValue.toValue)⟩

instance {β : Type} [FieldType β] : FieldType (Option β) :=
  ⟨FieldType.kind β, fun x => match x with
    | some b => FieldType.toField b
    | none => .null⟩

instance {β : Type} {n : Nat} [ToValue β] : ToValue (Vector β n) :=
  ⟨fun xs => .array (xs.toList.map ToValue.toValue)⟩

end RecordQuery
