import RecordQuery.Proofs.Binary.Nearest
import RecordQuery.Proofs.Compile.Literal

/-!
# Comparing integers with floats

An integer and a float compare by turning the integer into the double nearest it, a tie going
to the even significand, and comparing the two doubles by value
(`FieldValue.compare?_integer_float`); the other way round gives the reverse. A float field
compares with an integer literal the same way, since building the filter turns the literal into
that double. Turning an integer into a double loses nothing up to `2^53` in size, so there the
comparison is the exact one (`FieldValue.compare?_integer_float_of_natAbs_le`). Beyond, two
different numbers can compare equal, `2^53 + 1` and the double `2^53` for one, but the nearest
double never lies on the other side of a double than the integer does, so a strict order is
never reversed (`FieldValue.compare?_integer_float_ne_gt`).

A comparison filter (`=`, `!=`, `>`, `>=`, `<`, `<=`) between an integer field and a float
literal, or a float field and an integer literal, is built and selects a record by that
comparison (`Condition.build_integer_float`, `Condition.build_float_integer`).
`compares_nearest` collects these facts.
-/

namespace RecordQuery

open Checked

namespace Binary64

/-- The IEEE comparison the other way round is the reverse. -/
theorem compare?_swap (x y : Binary64) : y.compare? x = (x.compare? y).map Ordering.swap := by
  unfold compare?
  rw [Bool.or_comm, Bool.and_comm]
  split_ifs <;> simp [totalCompare, Nat.compare_swap]

end Binary64

/-- An `i128` lies far below the overflow of doubles. -/
theorem Int128.natAbs_lt (a : Int128) : a.val.natAbs < 2 ^ 1023 := by
  have h1 := a.min_le
  have h2 := a.lt_max
  have hp : Int.pow 2 127 = 2 ^ 127 := rfl
  rw [hp] at h1 h2
  omega

namespace FieldValue

variable (a : Int128) {b : Binary64}

/-- An integer compares with a finite double as the double nearest the integer does. -/
theorem compare?_integer_float (hb : b.isFinite = true) :
    (integer a).compare? (float b) = some (compare (Binary64.ofInt a.val).toRat b.toRat) :=
  Binary64.compare?_eq_compare_toRat (Binary64.isFinite_ofInt a.natAbs_lt) hb

/-- A float compares with an integer as the reverse of the integer with the float. -/
theorem compare?_float_integer :
    (float b).compare? (integer a) = ((integer a).compare? (float b)).map Ordering.swap :=
  Binary64.compare?_swap _ _

/-- Up to `2^53` in size an integer compares with a finite double exactly. -/
theorem compare?_integer_float_of_natAbs_le (hb : b.isFinite = true)
    (h : a.val.natAbs ≤ 2 ^ 53) :
    (integer a).compare? (float b) = some (compare (a.val : ℚ) b.toRat) := by
  rw [compare?_integer_float a hb, Binary64.toRat_ofInt_of_natAbs_le h]

/-- An integer below a finite double does not compare greater. -/
theorem compare?_integer_float_ne_gt (hb : b.isFinite = true) (h : (a.val : ℚ) < b.toRat) :
    (integer a).compare? (float b) ≠ some .gt := by
  rw [compare?_integer_float a hb]
  intro hgt
  have hle := Binary64.toRat_ofInt_le_of_lt a.natAbs_lt hb h
  exact absurd (compare_gt_iff_gt.mp (Option.some.inj hgt)) (not_lt.mpr hle)

/-- An integer above a finite double does not compare less. -/
theorem compare?_integer_float_ne_lt (hb : b.isFinite = true) (h : b.toRat < a.val) :
    (integer a).compare? (float b) ≠ some .lt := by
  rw [compare?_integer_float a hb]
  intro hlt
  have hle := Binary64.le_toRat_ofInt_of_lt a.natAbs_lt hb h
  exact absurd (compare_lt_iff_lt.mp (Option.some.inj hlt)) (not_lt.mpr hle)

/-- Null compares with nothing. -/
theorem null_compare? (w : FieldValue) : null.compare? w = none := by
  cases w <;> rfl

end FieldValue

namespace Condition

variable {field : String} {k : ValueKind} {l v : Value}

/-- The six operators that compare a field with a literal. -/
def comparisons : List FilterOperator := [.eq, .ne, .gt, .ge, .lt, .le]

/-- A comparison operator builds the comparison of its base, inverted for `!=`. -/
theorem build_of_mem_comparisons {op : FilterOperator} (hop : op ∈ comparisons) (l : Value) :
    build field k op l = comparison field k op op.base l := by
  simp only [comparisons, List.mem_cons, List.mem_nil_iff, or_false] at hop
  rcases hop with rfl | rfl | rfl | rfl | rfl | rfl <;> rfl

/-- On an orderable field, a comparison with a literal that the field's kind takes is built: the
test of the base operator against the literal brought to the kind, inverted for `!=`. -/
theorem result_comparison {op base : FilterOperator} (hk : k.isOrderable = true)
    (hv : (coerce l k).value = some v) :
    result (comparison field k op base l) = .ok ⟨.compare base v, op.isNegated⟩ := by
  have hs : k.isScalar = true := by
    simp only [ValueKind.isOrderable, Bool.and_eq_true] at hk
    exact hk.1
  unfold comparison
  rw [if_neg (by simp [hk]), if_neg (by simp [hs]), result_bind, result_lift, hv]
  rfl

/-- A comparison condition accepts a value that compares with its literal exactly when the
outcome satisfies the operator, `!=` included. -/
theorem accepts_compare {op : FilterOperator} (hop : op ∈ comparisons) {w : FieldValue}
    {o : Ordering} (hw : w.compare? v.asField = some o) :
    (⟨.compare op.base v, op.isNegated⟩ : Condition).accepts w = op.evalOrdering o := by
  -- null compares with nothing, so the value is not null
  have hnull : w.isNull = false := by
    cases w
    case null => rw [FieldValue.null_compare?] at hw; cases hw
    all_goals rfl
  have heval : (Test.compare op.base v).eval w = op.base.evalOrdering o := by
    simp only [Test.eval, hw]
  simp only [accepts, hnull, heval, Bool.false_eq_true, if_false]
  simp only [comparisons, List.mem_cons, List.mem_nil_iff, or_false] at hop
  rcases hop with rfl | rfl | rfl | rfl | rfl | rfl <;> cases o <;> rfl

/-- On an integer field a comparison with a finite float literal is built, and accepts an
integer by the comparison of the double nearest it with the literal. -/
theorem build_integer_float {op : FilterOperator} (hop : op ∈ comparisons) {b : Binary64}
    (hb : b.isFinite = true) :
    ∃ c, result (build field .integer op (.float b)) = .ok c ∧ ∀ a : Int128,
      c.accepts (.integer a) = op.evalOrdering (compare (Binary64.ofInt a.val).toRat b.toRat) := by
  refine ⟨_, ?_, fun a =>
    accepts_compare (v := .float b) hop (FieldValue.compare?_integer_float a hb)⟩
  rw [build_of_mem_comparisons hop]
  exact result_comparison rfl rfl

/-- On a float field a comparison with an integer literal is built, and accepts a finite
double by its comparison with the double nearest the literal. -/
theorem build_float_integer {op : FilterOperator} (hop : op ∈ comparisons) (a : Int128) :
    ∃ c, result (build field .float op (.integer a)) = .ok c ∧
      ∀ b : Binary64, b.isFinite = true →
      c.accepts (.float b) = op.evalOrdering (compare b.toRat (Binary64.ofInt a.val).toRat) := by
  refine ⟨_, ?_, fun b hb => accepts_compare (v := .float (Binary64.ofInt a.val)) hop
    (Binary64.compare?_eq_compare_toRat hb (Binary64.isFinite_ofInt a.natAbs_lt))⟩
  rw [build_of_mem_comparisons hop]
  exact result_comparison rfl rfl

end Condition

/-- How an integer and a finite double compare, and what a comparison filter between an
integer field and a float literal, or a float field and an integer literal, selects. -/
structure ComparesNearest (a : Int128) (b : Binary64) : Prop where
  /-- The integer stands for the double nearest it. -/
  nearest : (Binary64.ofInt a.val).isFinite = true ∧ ∀ y : Binary64, y.isFinite = true →
    |(Binary64.ofInt a.val).toRat - a.val| ≤ |y.toRat - a.val|
  /-- The integer compares with the float as that double does, by value. -/
  integer_float : (FieldValue.integer a).compare? (.float b) =
    some (compare (Binary64.ofInt a.val).toRat b.toRat)
  /-- The float compares with the integer as the reverse. -/
  float_integer : (FieldValue.float b).compare? (.integer a) =
    ((FieldValue.integer a).compare? (.float b)).map Ordering.swap
  /-- Up to `2^53` in size the comparison is exact. -/
  exact : a.val.natAbs ≤ 2 ^ 53 →
    (FieldValue.integer a).compare? (.float b) = some (compare (a.val : ℚ) b.toRat)
  /-- Beyond, unequal numbers may compare equal, but a strict order is never reversed. -/
  not_gt : (a.val : ℚ) < b.toRat → (FieldValue.integer a).compare? (.float b) ≠ some .gt
  not_lt : b.toRat < a.val → (FieldValue.integer a).compare? (.float b) ≠ some .lt
  /-- A comparison filter on an integer field with the float literal selects the integer by the
  comparison of its double with the float. -/
  filter_integer_field : ∀ (field : String) (op : FilterOperator),
    op ∈ Condition.comparisons →
    ∃ c, result (Condition.build field .integer op (.float b)) = .ok c ∧
      c.accepts (.integer a) = op.evalOrdering (compare (Binary64.ofInt a.val).toRat b.toRat)
  /-- A comparison filter on a float field with the integer literal selects the float by its
  comparison with the integer's double. -/
  filter_float_field : ∀ (field : String) (op : FilterOperator),
    op ∈ Condition.comparisons →
    ∃ c, result (Condition.build field .float op (.integer a)) = .ok c ∧
      c.accepts (.float b) = op.evalOrdering (compare b.toRat (Binary64.ofInt a.val).toRat)

/-- An integer compares with a finite double through the double nearest the integer. -/
theorem compares_nearest (a : Int128) {b : Binary64} (hb : b.isFinite = true) :
    ComparesNearest a b where
  nearest :=
    ⟨Binary64.isFinite_ofInt a.natAbs_lt, fun _ hy => Binary64.ofInt_nearest a.natAbs_lt hy⟩
  integer_float := FieldValue.compare?_integer_float a hb
  float_integer := FieldValue.compare?_float_integer a
  exact h := FieldValue.compare?_integer_float_of_natAbs_le a hb h
  not_gt h := FieldValue.compare?_integer_float_ne_gt a hb h
  not_lt h := FieldValue.compare?_integer_float_ne_lt a hb h
  filter_integer_field _ _ hop :=
    let ⟨c, hc, hacc⟩ := Condition.build_integer_float hop hb
    ⟨c, hc, hacc a⟩
  filter_float_field _ _ hop :=
    let ⟨c, hc, hacc⟩ := Condition.build_float_integer hop a
    ⟨c, hc, hacc b hb⟩

/-- `2^64 - 1`, the greatest `u64`, against the double `2^64`. -/
theorem compares_nearest_maxU64 :
    (⟨0x43F0000000000000⟩ : Binary64).isFinite = true ∧
      ComparesNearest ⟨18446744073709551615, by decide, by decide⟩ ⟨0x43F0000000000000⟩ :=
  ⟨by decide, compares_nearest _ (by decide)⟩

/-- Rounding makes unequal numbers compare equal: `2^53 + 1` compares equal to the double
`2^53`, and a filter `>=` the double `2^64` on an integer field accepts `2^64 - 1`. -/
theorem compare?_integer_float_rounds :
    (⟨0x4340000000000000⟩ : Binary64).toRat < ((9007199254740993 : ℤ) : ℚ) ∧
      (FieldValue.integer ⟨9007199254740993, by decide, by decide⟩).compare?
        (.float ⟨0x4340000000000000⟩) = some .eq ∧
      ((18446744073709551615 : ℤ) : ℚ) < (⟨0x43F0000000000000⟩ : Binary64).toRat ∧
      (result (Condition.build "Serial" .integer .ge
          (.float ⟨0x43F0000000000000⟩))).toOption.map
        (·.accepts (.integer ⟨18446744073709551615, by decide, by decide⟩)) = some true := by
  decide +kernel

end RecordQuery
