import RecordQuery.Proofs.Compile.Deferred
import RecordQuery.Proofs.Binary.Order

/-!
# The laws of sorting

Sorting compares what records show for a field with `FieldValue.sortCompare`. On null and the
values of one scalar kind that comparison is the comparison of a key
(`FieldValue.sortCompare_eq_compare_sortKey`), so it has the laws of a total preorder: every
value equals itself, swapping the two sides reverses the outcome, and `lt` and `eq` chain.
Null comes before every other value, and floats compare by the IEEE 754 total order: the
classes in their order, finite numbers by value with `-0` just below `+0`, and NaNs of one
sign by their payload.

Compiled definitions compare records by their sort keys in turn, the first key that tells two
records apart deciding and a descending key reversed (`Compiled.compare_eq_foldr`). For a
record type whose fields and overrides read values of their kinds, that comparison is a total
preorder (`transCmp_compare_of_compile`); `sortCompare_laws` collects these laws.
-/

namespace RecordQuery

namespace FieldValue

variable {k : ValueKind} {u v w : FieldValue}

/-! ### A total preorder on each scalar kind -/

theorem sortCompare_self (hu : u.fitsScalar k = true) : u.sortCompare u = .eq := by
  rw [sortCompare_eq_compare_sortKey hu hu]
  exact Std.ReflCmp.compare_self

theorem sortCompare_swap (hu : u.fitsScalar k = true) (hv : v.fitsScalar k = true) :
    v.sortCompare u = (u.sortCompare v).swap := by
  rw [sortCompare_eq_compare_sortKey hv hu, sortCompare_eq_compare_sortKey hu hv]
  exact Std.OrientedCmp.eq_swap

section Trans

variable (hu : u.fitsScalar k = true) (hv : v.fitsScalar k = true) (hw : w.fitsScalar k = true)
include hu hv hw

theorem sortCompare_lt_trans (huv : u.sortCompare v = .lt) (hvw : v.sortCompare w = .lt) :
    u.sortCompare w = .lt := by
  rw [sortCompare_eq_compare_sortKey hu hv] at huv
  rw [sortCompare_eq_compare_sortKey hv hw] at hvw
  rw [sortCompare_eq_compare_sortKey hu hw]
  exact Std.TransCmp.lt_trans huv hvw

theorem sortCompare_eq_trans (huv : u.sortCompare v = .eq) (hvw : v.sortCompare w = .eq) :
    u.sortCompare w = .eq := by
  rw [sortCompare_eq_compare_sortKey hu hv] at huv
  rw [sortCompare_eq_compare_sortKey hv hw] at hvw
  rw [sortCompare_eq_compare_sortKey hu hw]
  exact Std.TransCmp.eq_trans huv hvw

end Trans

/-- Null comes before every other value, whatever its kind. -/
theorem null_sortCompare (hv : v ≠ .null) : null.sortCompare v = .lt := by
  cases v
  case null => exact absurd rfl hv
  all_goals rfl

end FieldValue

/-! ### Records -/

variable {α : Type}

/-- Comparing by compiled sort keys is their lexicographic combination: the first key, in its
direction, that does not find two records equal decides. -/
theorem Compiled.compare_eq_foldr (c : Compiled α) (a b : α) :
    c.compare a b = (c.orders.map fun k => k.dir.apply (k.cmp a b)).foldr Ordering.then .eq := by
  rw [compare_eq]
  induction c.orders with
  | nil => rfl
  | cons key keys ih =>
    -- the first key, then the rest when it finds the records equal
    rw [List.map_cons, firstDifference_cons, List.map_cons, List.foldr_cons, ← ih]
    rfl

/-- A descending key compares two records as its ascending comparison does them swapped. -/
theorem SortKey.apply_desc (key : SortKey α) [Std.OrientedCmp key.cmp] (a b : α) :
    Direction.desc.apply (key.cmp a b) = key.cmp b a :=
  Std.OrientedCmp.eq_swap.symm

/-- The laws of sorting: on null and the values of each scalar kind the comparison is a total
preorder, null comes first, floats follow the IEEE 754 total order, and compiled definitions
compare records lexicographically by their keys, by a total preorder when every field reads
values of its kind. -/
structure SortLaws : Prop where
  refl : ∀ (k : ValueKind) (u : FieldValue), u.fitsScalar k = true → u.sortCompare u = .eq
  swap : ∀ (k : ValueKind) (u v : FieldValue), u.fitsScalar k = true → v.fitsScalar k = true →
    v.sortCompare u = (u.sortCompare v).swap
  lt_trans : ∀ (k : ValueKind) (u v w : FieldValue), u.fitsScalar k = true →
    v.fitsScalar k = true → w.fitsScalar k = true →
    u.sortCompare v = .lt → v.sortCompare w = .lt → u.sortCompare w = .lt
  eq_trans : ∀ (k : ValueKind) (u v w : FieldValue), u.fitsScalar k = true →
    v.fitsScalar k = true → w.fitsScalar k = true →
    u.sortCompare v = .eq → v.sortCompare w = .eq → u.sortCompare w = .eq
  /-- Null is below every other value. -/
  null_lt : ∀ v : FieldValue, v ≠ .null → FieldValue.null.sortCompare v = .lt
  /-- Negative NaNs, negative infinity, finite numbers, positive infinity, positive NaNs. -/
  float_totalClass : ∀ x y : Binary64, x.totalClass < y.totalClass →
    (FieldValue.float x).sortCompare (.float y) = .lt
  /-- Finite numbers by value. -/
  float_toRat : ∀ x y : Binary64, x.isFinite = true → y.isFinite = true →
    x.toRat < y.toRat → (FieldValue.float x).sortCompare (.float y) = .lt
  float_neg_zero : (FieldValue.float Binary64.zero.neg).sortCompare (.float Binary64.zero) = .lt
  /-- NaNs of one sign by payload, reversed when negative. -/
  float_nan : ∀ x y : Binary64, x.isNaN = true → y.isNaN = true → x.signBit = y.signBit →
    (FieldValue.float x).sortCompare (.float y) =
      if x.signBit then compare y.magBits x.magBits else compare x.magBits y.magBits
  /-- Only equal doubles compare equal. -/
  float_eq : ∀ x y : Binary64, (FieldValue.float x).sortCompare (.float y) = .eq ↔ x = y
  /-- Compiled definitions compare records lexicographically by their keys. -/
  compare_lex : ∀ (β : Type) (c : Compiled β) (a b : β),
    c.compare a b = (c.orders.map fun k => k.dir.apply (k.cmp a b)).foldr Ordering.then .eq
  /-- A descending key reverses its comparison. -/
  desc_swap : ∀ (β : Type) (key : SortKey β), Std.OrientedCmp key.cmp → ∀ a b : β,
    Direction.desc.apply (key.cmp a b) = key.cmp b a
  /-- Compiled definitions of a record type whose fields and overrides read values of their
  kinds compare records by a total preorder. -/
  compile_transCmp : ∀ (β : Type) [Queryable β] (table : Overrides β) (d : Definitions)
    (c : Compiled β), SortsByKind β table → Checked.result (compile d table) = .ok c →
    Std.TransCmp c.compare

theorem sortCompare_laws : SortLaws where
  refl _ _ hu := FieldValue.sortCompare_self hu
  swap _ _ _ hu hv := FieldValue.sortCompare_swap hu hv
  lt_trans _ _ _ _ hu hv hw := FieldValue.sortCompare_lt_trans hu hv hw
  eq_trans _ _ _ _ hu hv hw := FieldValue.sortCompare_eq_trans hu hv hw
  null_lt _ hv := FieldValue.null_sortCompare hv
  float_totalClass _ _ h := Binary64.totalCompare_eq_lt_of_totalClass_lt h
  float_toRat _ _ hx hy h := Binary64.totalCompare_eq_lt_of_toRat_lt hx hy h
  float_neg_zero := Binary64.totalCompare_neg_zero
  float_nan _ _ _ _ h := Binary64.totalCompare_of_signBit_eq h
  float_eq _ _ := Binary64.totalCompare_eq_eq_iff
  compare_lex _ c a b := c.compare_eq_foldr a b
  desc_swap _ key _ a b := key.apply_desc a b
  compile_transCmp _ _ _ _ _ hk hc := transCmp_compare_of_compile hk hc

/-- Sort by score, then by name descending. -/
def scoreThenName : Definitions := ⟨[], [⟨"Score", false⟩, ⟨"Name", true⟩]⟩

/-- The sample records sort by kind, so sorting them by score and then by name compiles to a
total preorder; and the integers 1, 2 and 3, each of the integer kind, compare transitively. -/
theorem sortCompare_laws_scoreThenName :
    SortsByKind Rec {} ∧
      (∃ c : Compiled Rec, Checked.result (compile scoreThenName {}) = .ok c ∧
        Std.TransCmp c.compare) ∧
      (FieldValue.ofInt 1).fitsScalar .integer = true ∧ (FieldValue.ofInt 2).fitsScalar .integer = true ∧
      (FieldValue.ofInt 3).fitsScalar .integer = true ∧
      (FieldValue.ofInt 1).sortCompare (FieldValue.ofInt 2) = .lt ∧
      (FieldValue.ofInt 2).sortCompare (FieldValue.ofInt 3) = .lt ∧
      (FieldValue.ofInt 1).sortCompare (FieldValue.ofInt 3) = .lt := by
  obtain ⟨c, hc⟩ := Checked.exists_eq_ok_of_isOk
    (by decide +kernel : (Checked.result (compile scoreThenName ({} : Overrides Rec))).isOk = true)
  have h1 : (FieldValue.ofInt 1).fitsScalar .integer = true := by decide
  have h2 : (FieldValue.ofInt 2).fitsScalar .integer = true := by decide
  have h3 : (FieldValue.ofInt 3).fitsScalar .integer = true := by decide
  have h12 : (FieldValue.ofInt 1).sortCompare (FieldValue.ofInt 2) = .lt := by decide
  have h23 : (FieldValue.ofInt 2).sortCompare (FieldValue.ofInt 3) = .lt := by decide
  exact ⟨Rec.sortsByKind,
    ⟨c, hc, sortCompare_laws.compile_transCmp Rec {} scoreThenName c Rec.sortsByKind hc⟩,
    h1, h2, h3, h12, h23, sortCompare_laws.lt_trans .integer _ _ _ h1 h2 h3 h12 h23⟩

end RecordQuery
