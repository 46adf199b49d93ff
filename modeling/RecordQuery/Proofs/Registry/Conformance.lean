import RecordQuery.Proofs.Sort.Key
import RecordQuery.Proofs.Binary.Widen
import RecordQuery.Sample.Record

/-!
# Field values conform to their kinds

A field has a type built from the leaf types (the integer types, both float widths, booleans,
texts, UUIDs, durations, timestamps, dates and instants in UTC) by lists and options.
`FieldShape` names these types, and `FieldShape.Carrier` is the type a shape names, a field
type through the instances of its parts.

Whatever the nesting, the field value of a value conforms to the kind of its type
(`FieldShape.conforms_toField`): it is null, a scalar of that kind, or, for a list kind, a
list whose items conform to the element kind. An option has the kind of its content and may
be null at any depth, and only an option shows as null (`FieldShape.nullFree_toField`).
Integers keep their exact value (`IntegerType.toField_eq_integer`) and singles are widened
exactly (`Binary32.toBinary64_sameNumber`). The value of a conforming field value, which is
what an override computes, drops the nulls: it shows as a field value of the same kind with no
null at any depth (`FieldValue.conforms_asField_toValue?`).
-/

namespace RecordQuery

/-! ### Conformance -/

namespace FieldValue

mutual

/-- A field value conforms to a kind: null to every kind, a scalar to its own kind, and a list
to a list kind when each of its items conforms to the element kind. -/
def conforms : FieldValue → ValueKind → Bool
  | .list items, .list k => conformsAll items k
  | v, k => v.fitsScalar k

/-- Each field value of a list conforms to the kind. -/
def conformsAll : List FieldValue → ValueKind → Bool
  | [], _ => true
  | v :: rest, k => conforms v k && conformsAll rest k

end

mutual

/-- A field value holds no null, at any depth. -/
def nullFree : FieldValue → Bool
  | .null => false
  | .list items => nullFreeAll items
  | _ => true

/-- No field value of a list holds a null. -/
def nullFreeAll : List FieldValue → Bool
  | [] => true
  | v :: rest => nullFree v && nullFreeAll rest

end

@[simp] theorem conforms_null (k : ValueKind) : null.conforms k = true := by
  cases k <;> rfl

@[simp] theorem conforms_list (items : List FieldValue) (k : ValueKind) :
    (list items).conforms (.list k) = conformsAll items k := by
  rw [conforms]

@[simp] theorem nullFree_list (items : List FieldValue) : (list items).nullFree = nullFreeAll items := by
  rw [nullFree]

theorem conformsAll_iff {items : List FieldValue} {k : ValueKind} :
    conformsAll items k = true ↔ ∀ v ∈ items, v.conforms k = true := by
  induction items with
  | nil => simp [conformsAll]
  | cons v rest ih => simp [conformsAll, ih]

theorem nullFreeAll_iff {items : List FieldValue} :
    nullFreeAll items = true ↔ ∀ v ∈ items, v.nullFree = true := by
  induction items with
  | nil => simp [nullFreeAll]
  | cons v rest ih => simp [nullFreeAll, ih]

/-- A scalar shows as itself once it is a value, so it keeps its kind, and holds no null. -/
theorem conforms_asField_toValue?_of_scalar {v : FieldValue} {k : ValueKind} {w : Value}
    (hl : v.asList? = none) (h : v.conforms k = true) (hw : v.toValue? = some w) :
    w.asField.conforms k = true ∧ w.asField.nullFree = true := by
  cases v with
  | list items => cases hl
  | null => cases hw
  | _ =>
    simp only [toValue?, Option.some.injEq] at hw
    subst hw
    exact ⟨h, rfl⟩

mutual

/-- The value of a field value conforming to a kind shows as a field value of that kind, with
no null left at any depth. -/
theorem conforms_asField_toValue? :
    ∀ (v : FieldValue) (k : ValueKind) (w : Value), v.conforms k = true → v.toValue? = some w →
      w.asField.conforms k = true ∧ w.asField.nullFree = true
  | .list items, k, w, h, hw => by
    -- only a list kind takes a list, and the value of a list is the array of its values
    cases k with
    | list k =>
      rw [conforms_list] at h
      simp only [toValue?, Option.some.injEq] at hw
      subst hw
      rw [Value.asField, conforms_list, nullFree_list]
      exact conformsAll_toValues items k h
    | _ => simp [conforms, fitsScalar] at h
  | .null, _, _, _, hw => by cases hw
  | .integer _, _, _, h, hw => conforms_asField_toValue?_of_scalar rfl h hw
  | .float _, _, _, h, hw => conforms_asField_toValue?_of_scalar rfl h hw
  | .boolean _, _, _, h, hw => conforms_asField_toValue?_of_scalar rfl h hw
  | .uuid _, _, _, h, hw => conforms_asField_toValue?_of_scalar rfl h hw
  | .duration _, _, _, h, hw => conforms_asField_toValue?_of_scalar rfl h hw
  | .timestamp _, _, _, h, hw => conforms_asField_toValue?_of_scalar rfl h hw
  | .text _, _, _, h, hw => conforms_asField_toValue?_of_scalar rfl h hw

/-- The values of the items of a list conforming to a list kind show as items of the element
kind, with no null. -/
theorem conformsAll_toValues :
    ∀ (items : List FieldValue) (k : ValueKind), conformsAll items k = true →
      conformsAll (Value.asFieldList (toValues items)) k = true ∧
        nullFreeAll (Value.asFieldList (toValues items)) = true
  | [], _, _ => ⟨rfl, rfl⟩
  | v :: rest, k, h => by
    simp only [conformsAll, Bool.and_eq_true] at h
    have hrest := conformsAll_toValues rest k h.2
    cases hv : v.toValue? with
    | none =>
      simp only [toValues, hv]
      exact hrest
    | some x =>
      have hx := conforms_asField_toValue? v k x h.1 hv
      simp only [toValues, hv, Value.asFieldList, conformsAll, nullFreeAll, hx.1, hx.2, hrest,
        Bool.and_self, and_self]

end

end FieldValue

/-! ### The types of fields -/

/-- The integer types of fields, by width and signedness. -/
inductive IntegerType where
  | i8
  | i16
  | i32
  | i64
  | i128
  | isize
  | u8
  | u16
  | u32
  | u64
  | usize

namespace IntegerType

/-- The type an integer type names. -/
def Carrier : IntegerType → Type
  | .i8 => Int8
  | .i16 => Int16
  | .i32 => Int32
  | .i64 => Int64
  | .i128 => Int128
  | .isize => ISize
  | .u8 => UInt8
  | .u16 => UInt16
  | .u32 => UInt32
  | .u64 => UInt64
  | .usize => USize

/-- The number a value of an integer type stands for. -/
def toInt : (t : IntegerType) → t.Carrier → Int
  | .i8 => fun n : Int8 => n.toInt
  | .i16 => fun n : Int16 => n.toInt
  | .i32 => fun n : Int32 => n.toInt
  | .i64 => fun n : Int64 => n.toInt
  | .i128 => fun n : Int128 => n.val
  | .isize => fun n : ISize => n.toInt
  | .u8 => fun n : UInt8 => n.toNat
  | .u16 => fun n : UInt16 => n.toNat
  | .u32 => fun n : UInt32 => n.toNat
  | .u64 => fun n : UInt64 => n.toNat
  | .usize => fun n : USize => n.toNat

/-- Each integer type is a field type by its own instance. -/
instance fieldType : (t : IntegerType) → FieldType t.Carrier
  | .i8 => inferInstanceAs (FieldType Int8)
  | .i16 => inferInstanceAs (FieldType Int16)
  | .i32 => inferInstanceAs (FieldType Int32)
  | .i64 => inferInstanceAs (FieldType Int64)
  | .i128 => inferInstanceAs (FieldType Int128)
  | .isize => inferInstanceAs (FieldType ISize)
  | .u8 => inferInstanceAs (FieldType UInt8)
  | .u16 => inferInstanceAs (FieldType UInt16)
  | .u32 => inferInstanceAs (FieldType UInt32)
  | .u64 => inferInstanceAs (FieldType UInt64)
  | .usize => inferInstanceAs (FieldType USize)

/-- Every integer type but `i128` shows a number through `FieldValue.ofInt`. -/
theorem toField_eq_ofInt {t : IntegerType} (ht : t ≠ .i128) (n : t.Carrier) :
    FieldType.toField n = FieldValue.ofInt (t.toInt n) := by
  -- each instance is read at its own type; comparing with `ofInt` unfolded instead would
  -- evaluate the bounds `2 ^ 127` of its range check
  cases t
  case i128 => exact absurd rfl ht
  case i8 => exact (rfl : FieldType.toField (β := Int8) n = _)
  case i16 => exact (rfl : FieldType.toField (β := Int16) n = _)
  case i32 => exact (rfl : FieldType.toField (β := Int32) n = _)
  case i64 => exact (rfl : FieldType.toField (β := Int64) n = _)
  case isize => exact (rfl : FieldType.toField (β := ISize) n = _)
  case u8 => exact (rfl : FieldType.toField (β := UInt8) n = _)
  case u16 => exact (rfl : FieldType.toField (β := UInt16) n = _)
  case u32 => exact (rfl : FieldType.toField (β := UInt32) n = _)
  case u64 => exact (rfl : FieldType.toField (β := UInt64) n = _)
  case usize => exact (rfl : FieldType.toField (β := USize) n = _)

/-- No integer type holds a number beyond the signed 128-bit range. -/
theorem toInt_mem_range (t : IntegerType) (n : t.Carrier) :
    -2 ^ 127 ≤ t.toInt n ∧ t.toInt n < 2 ^ 127 := by
  cases t
  case i128 =>
    have hp : Int.pow 2 127 = 2 ^ 127 := rfl
    exact ⟨hp ▸ (n : Int128).min_le, hp ▸ (n : Int128).lt_max⟩
  case i8 => have := Int8.le_toInt n; have := Int8.toInt_lt n; simp only [toInt]; omega
  case i16 => have := Int16.le_toInt n; have := Int16.toInt_lt n; simp only [toInt]; omega
  case i32 => have := Int32.le_toInt n; have := Int32.toInt_lt n; simp only [toInt]; omega
  case i64 => have := Int64.le_toInt n; have := Int64.toInt_lt n; simp only [toInt]; omega
  case isize => have := ISize.le_toInt n; have := ISize.toInt_lt n; simp only [toInt]; omega
  case u8 => have := UInt8.toNat_lt n; simp only [toInt]; omega
  case u16 => have := UInt16.toNat_lt n; simp only [toInt]; omega
  case u32 => have := UInt32.toNat_lt n; simp only [toInt]; omega
  case u64 => have := UInt64.toNat_lt n; simp only [toInt]; omega
  case usize => have := USize.toNat_lt n; simp only [toInt]; omega

end IntegerType

/-- A number in the signed 128-bit range shows as that integer. -/
theorem FieldValue.ofInt_of_mem_range {z : Int} (h1 : -2 ^ 127 ≤ z) (h2 : z < 2 ^ 127) :
    ∃ m : Int128, FieldValue.ofInt z = .integer m ∧ m.val = z := by
  have hp : Int.pow 2 127 = 2 ^ 127 := rfl
  have hsome : Int128.ofInt? z = some ⟨z, hp ▸ h1, hp ▸ h2⟩ := by
    unfold Int128.ofInt?
    rw [dif_pos ⟨hp ▸ h1, hp ▸ h2⟩]
  exact ⟨_, by rw [FieldValue.ofInt, hsome], rfl⟩

namespace IntegerType

/-- Every integer type has the integer kind. -/
theorem kind_eq (t : IntegerType) : FieldType.kind t.Carrier = .integer := by
  cases t <;> rfl

/-- An integer type shows its number exactly, as a 128-bit integer. -/
theorem toField_eq_integer (t : IntegerType) (n : t.Carrier) :
    ∃ m : Int128, FieldType.toField n = .integer m ∧ m.val = t.toInt n := by
  by_cases ht : t = .i128
  · subst ht
    exact ⟨n, rfl, rfl⟩
  · obtain ⟨h1, h2⟩ := toInt_mem_range t n
    rw [toField_eq_ofInt ht]
    exact FieldValue.ofInt_of_mem_range h1 h2

end IntegerType

/-- The types a field can have: a leaf type, or a list or an option of a field type. -/
inductive FieldShape where
  | integer (t : IntegerType)
  | single
  | double
  | boolean
  | text
  | uuid
  | duration
  | timestamp
  | date
  | utcTimestamp
  | list (s : FieldShape)
  | option (s : FieldShape)

namespace FieldShape

/-- The type a shape names; a text stands for owned and borrowed strings alike. -/
def Carrier : FieldShape → Type
  | .integer t => t.Carrier
  | .single => Binary32
  | .double => Binary64
  | .boolean => Bool
  | .text => String
  | .uuid => Uuid
  | .duration => Duration
  | .timestamp => Timestamp
  | .date => Date
  | .utcTimestamp => UtcTimestamp
  | .list s => List s.Carrier
  | .option s => Option s.Carrier

/-- The type a shape names is a field type through the instances of its leaf type and of
lists and options. -/
instance fieldType : (s : FieldShape) → FieldType s.Carrier
  | .integer t => t.fieldType
  | .single => inferInstanceAs (FieldType Binary32)
  | .double => inferInstanceAs (FieldType Binary64)
  | .boolean => inferInstanceAs (FieldType Bool)
  | .text => inferInstanceAs (FieldType String)
  | .uuid => inferInstanceAs (FieldType Uuid)
  | .duration => inferInstanceAs (FieldType Duration)
  | .timestamp => inferInstanceAs (FieldType Timestamp)
  | .date => inferInstanceAs (FieldType Date)
  | .utcTimestamp => inferInstanceAs (FieldType UtcTimestamp)
  | .list s =>
    letI := s.fieldType
    inferInstanceAs (FieldType (List s.Carrier))
  | .option s =>
    letI := s.fieldType
    inferInstanceAs (FieldType (Option s.Carrier))

/-- The field value of a value of any field type conforms to the type's kind. The induction
is on the nesting of lists and options; an option passes its content's kind on, and adds
null. -/
theorem conforms_toField (s : FieldShape) (v : s.Carrier) :
    (FieldType.toField v).conforms (FieldType.kind s.Carrier) = true := by
  induction s with
  | integer t =>
    -- read the instance of the shape as the integer type's own
    show (FieldType.toField (β := t.Carrier) v).conforms (FieldType.kind t.Carrier) = true
    obtain ⟨m, hm, -⟩ := t.toField_eq_integer v
    rw [hm, t.kind_eq]
    rfl
  | single | double | boolean | text | uuid | duration | timestamp | date | utcTimestamp => rfl
  | list s ih =>
    show (FieldValue.list (v.map FieldType.toField)).conforms (.list (FieldType.kind s.Carrier)) =
      true
    rw [FieldValue.conforms_list, FieldValue.conformsAll_iff]
    intro w hw
    obtain ⟨x, -, rfl⟩ := List.mem_map.mp hw
    exact ih x
  | option s ih =>
    cases v with
    | none => exact FieldValue.conforms_null _
    | some b => exact ih b

/-- Whether an option stands anywhere in the shape. -/
def hasOption : FieldShape → Bool
  | .list s => s.hasOption
  | .option _ => true
  | _ => false

/-- Only an option shows as null: the field value of a type with no option in it holds no null
at any depth. -/
theorem nullFree_toField (s : FieldShape) (hs : s.hasOption = false) (v : s.Carrier) :
    (FieldType.toField v).nullFree = true := by
  induction s with
  | integer t =>
    show (FieldType.toField (β := t.Carrier) v).nullFree = true
    obtain ⟨m, hm, -⟩ := t.toField_eq_integer v
    rw [hm]
    rfl
  | single | double | boolean | text | uuid | duration | timestamp | date | utcTimestamp => rfl
  | list s ih =>
    show (FieldValue.list (v.map FieldType.toField)).nullFree = true
    rw [FieldValue.nullFree_list, FieldValue.nullFreeAll_iff]
    intro w hw
    obtain ⟨x, -, rfl⟩ := List.mem_map.mp hw
    exact ih hs x
  | option s ih => cases hs

end FieldShape

/-- What field types show. Whatever the nesting of lists and options over the leaf types, the
field value of a value conforms to the kind of its type, and holds a null only where an option
stands in the type; an integer shows its exact number
and a single the double of the same number; and what an override computes is nothing or a
value that shows as a field value of the override's kind, with no null at any depth. -/
structure FieldTypesConform : Prop where
  conforms : ∀ (s : FieldShape) (v : s.Carrier),
    (FieldType.toField v).conforms (FieldType.kind s.Carrier) = true
  null_only_from_option : ∀ (s : FieldShape), s.hasOption = false → ∀ v : s.Carrier,
    (FieldType.toField v).nullFree = true
  integer_exact : ∀ (t : IntegerType) (n : t.Carrier),
    ∃ m : Int128, FieldType.toField n = .integer m ∧ m.val = t.toInt n
  field_get : ∀ {α : Type} (s : FieldShape) (name : String) (f : α → s.Carrier) (r : α),
    ((Field.of name f).get r).conforms (Field.of name f).kind = true
  single_exact : ∀ x : Binary32,
    ∃ y : Binary64, FieldType.toField x = .float y ∧ x.view.SameNumber y.view
  override_value : ∀ {α : Type} (s : FieldShape) (name : String) (f : α → s.Carrier) (r : α)
    (w : Value), (Override.of name f).value r = some w →
      w.asField.conforms (Override.of name f).kind = true ∧ w.asField.nullFree = true

theorem fieldTypes_conform : FieldTypesConform where
  conforms := FieldShape.conforms_toField
  null_only_from_option := FieldShape.nullFree_toField
  integer_exact := IntegerType.toField_eq_integer
  field_get s _ f r := FieldShape.conforms_toField s (f r)
  single_exact x := ⟨_, rfl, x.toBinary64_sameNumber⟩
  override_value s _ f r w h :=
    FieldValue.conforms_asField_toValue? _ _ w (FieldShape.conforms_toField s (f r)) h

/-- The shape of a grid of integers, `Vec<Vec<i64>>`. -/
def FieldShape.grid : FieldShape := .list (.list (.integer .i64))

/-- The shape of an optional text, `Option<String>`. -/
def FieldShape.optionalText : FieldShape := .option .text

/-- A grid of integers has no option in its type, so none of its field values holds a null;
the override that reads a sample record's nickname, for a record that has one, computes a text
that shows as a field value of the override's kind, with no null. -/
theorem fieldTypes_conform_gridAndNick :
    FieldShape.grid.hasOption = false ∧
      (∀ v : FieldShape.grid.Carrier, (FieldType.toField v).nullFree = true) ∧
      (Override.of "nick" fun r : Rec => (r.nickname : FieldShape.optionalText.Carrier)).value
        { nickname := some "ann" } = some (.text "ann") ∧
      (Value.text "ann").asField.conforms
        (Override.of "nick" fun r : Rec => (r.nickname : FieldShape.optionalText.Carrier)).kind =
          true ∧
      (Value.text "ann").asField.nullFree = true := by
  have hgrid : FieldShape.grid.hasOption = false := rfl
  have hnick : (Override.of "nick" fun r : Rec => (r.nickname : FieldShape.optionalText.Carrier)).value
      { nickname := some "ann" } = some (.text "ann") := rfl
  exact ⟨hgrid, fieldTypes_conform.null_only_from_option _ hgrid, hnick,
    fieldTypes_conform.override_value FieldShape.optionalText "nick"
      (fun r : Rec => (r.nickname : FieldShape.optionalText.Carrier)) { nickname := some "ann" }
      (.text "ann") hnick⟩

end RecordQuery
