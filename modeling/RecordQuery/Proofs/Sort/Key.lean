import RecordQuery.Compile

/-!
# Sort keys are total preorders

Sorting compares what two records show for a field with `FieldValue.sortCompare`. On the
values of one scalar kind, and null, that comparison is the comparison of a key
(`FieldValue.sortCompare_eq_compare_sortKey`): null first, then integers, durations, UUIDs
and booleans by their number, floats by their IEEE total-order key, timestamps by date and
time of day, texts by their code points. Packing the key as a list of integers gives the
comparison the laws of the library's list order, so a field whose values have its kind sorts
by a total preorder (`transCmp_sortCompare`). A direction keeps that (`transCmp_apply`), and
so does comparing by several keys in turn (`transCmp_firstDifference`).
-/

namespace RecordQuery

section Option

variable {α : Type} [Ord α]

theorem compare_some (a b : α) : compare (some a) (some b) = compare a b := rfl
theorem compare_none_some (b : α) : compare none (some b) = .lt := rfl
theorem compare_some_none (a : α) : compare (some a) none = .gt := rfl
theorem compare_none_none : compare (none : Option α) none = .eq := rfl

end Option

theorem compare_natCast (a b : Nat) : compare (a : Int) (b : Int) = compare a b := by
  rw [Int.compare_eq_ite_lt, Nat.compare_eq_ite_lt]
  simp only [Int.ofNat_lt]

/-- Booleans compare as `0` and `1`. -/
theorem compare_bool (a b : Bool) :
    compare a b = compare (if a then (1 : Int) else 0) (if b then 1 else 0) := by
  cases a <;> cases b <;> rfl

/-- Code points compare as numbers, one after another. -/
theorem compareChars_eq_compare (xs ys : List Char) :
    compareChars xs ys =
      compare (xs.map fun c => (c.toNat : Int)) (ys.map fun c => (c.toNat : Int)) := by
  induction xs generalizing ys with
  | nil => cases ys <;> rfl
  | cons x xs ih =>
    cases ys with
    | nil => rfl
    | cons y ys =>
      rw [compareChars, List.map_cons, List.map_cons, List.compare_cons_cons, compare_natCast,
        ← ih]
      cases compare x.toNat y.toNat <;> rfl

namespace FieldValue

/-- The value is null or a scalar of the kind. -/
def fitsScalar (k : ValueKind) : FieldValue → Bool
  | .null => true
  | .integer _ => k == .integer
  | .float _ => k == .float
  | .boolean _ => k == .boolean
  | .uuid _ => k == .uuid
  | .duration _ => k == .duration
  | .timestamp _ => k == .timestamp
  | .text _ => k == .text
  | .list _ => false

/-- A number read from an integer field is an integer, or null when it is out of range. -/
@[simp] theorem fitsScalar_ofInt (n : Int) : (ofInt n).fitsScalar .integer = true := by
  unfold ofInt
  split <;> rfl

/-- What sorting compares a value by: nothing for null, which comes first; the number of an
integer, a duration, a UUID or a boolean; the total-order key of a float; the date and time
of day of a timestamp; the code points of a text. -/
def sortKey : FieldValue → Option (List Int)
  | .null => none
  | .integer n => some [n.val]
  | .float x => some [x.totalKey]
  | .boolean b => some [if b then 1 else 0]
  | .uuid u => some [u.bits.toNat]
  | .duration d => some [d.nanos]
  | .timestamp t =>
    some [t.date.year, t.date.month, t.date.day, t.hour, t.minute, t.second, t.nano]
  | .text s => some (s.toList.map fun c => (c.toNat : Int))
  | .list _ => none

/-- Two values that fit one scalar kind compare as their keys. -/
theorem sortCompare_eq_compare_sortKey {k : ValueKind} {v w : FieldValue}
    (hv : v.fitsScalar k = true) (hw : w.fitsScalar k = true) :
    v.sortCompare w = compare v.sortKey w.sortKey := by
  -- each of the two is null or has the kind `k`
  cases k <;> cases v <;>
    simp only [fitsScalar, beq_iff_eq, reduceCtorEq, Bool.false_eq_true] at hv <;>
    cases w <;> simp only [fitsScalar, beq_iff_eq, reduceCtorEq, Bool.false_eq_true] at hw
  -- within one kind, the comparison of each kind is the comparison of its key
  all_goals simp only [sortCompare, compare?, sortKey, compare_some, compare_none_some,
    compare_some_none, compare_none_none, Option.getD_some, List.compare_cons_cons,
    List.compare_nil_nil, Ordering.then_eq, compare_natCast, Binary64.totalCompare,
    Uuid.compare, Duration.compare, Timestamp.compare, Date.compare, Ordering.then_assoc,
    compareText, compareChars_eq_compare, compare_bool]

end FieldValue

variable {α : Type}

/-- Comparing what records show for a field is a total preorder when every record shows null
or a value of one scalar kind. -/
theorem transCmp_sortCompare {k : ValueKind} {read : α → FieldValue}
    (h : ∀ r, (read r).fitsScalar k = true) :
    Std.TransCmp fun a b => (read a).sortCompare (read b) := by
  have heq : (fun a b => (read a).sortCompare (read b)) = compareOn fun r => (read r).sortKey := by
    funext a b
    exact FieldValue.sortCompare_eq_compare_sortKey (h a) (h b)
  rw [heq]
  infer_instance

/-- A direction keeps a total preorder one: descending is the opposite comparison. -/
theorem transCmp_apply {cmp : α → α → Ordering} [Std.TransCmp cmp] (d : Direction) :
    Std.TransCmp fun a b => d.apply (cmp a b) := by
  cases d with
  | asc => exact inferInstanceAs (Std.TransCmp cmp)
  | desc =>
    have heq : (fun a b => Direction.desc.apply (cmp a b)) = fun a b => cmp b a := by
      funext a b
      exact Std.OrientedCmp.eq_swap.symm
    rw [heq]
    infer_instance

/-- Comparing by a first key and then by the rest is their lexicographic combination. -/
theorem firstDifference_cons (c : α → α → Ordering) (cs : List (α → α → Ordering)) :
    firstDifference (c :: cs) = compareLex c (firstDifference cs) := by
  funext a b
  simp only [firstDifference, compareLex]
  cases c a b <;> rfl

/-- Comparing by total preorders in turn is a total preorder. -/
theorem transCmp_firstDifference {cmps : List (α → α → Ordering)}
    (h : ∀ c ∈ cmps, Std.TransCmp c) : Std.TransCmp (firstDifference cmps) := by
  induction cmps with
  | nil =>
    -- no keys: everything is equal
    exact { eq_swap := rfl, isLE_trans := fun _ _ => rfl }
  | cons c cs ih =>
    have := h c List.mem_cons_self
    have := ih fun c' hc' => h c' (List.mem_cons_of_mem c hc')
    rw [firstDifference_cons]
    infer_instance

/-- Compiled sort keys that are total preorders compare records by a total preorder. -/
theorem Compiled.transCmp_compare (c : Compiled α) (h : ∀ k ∈ c.orders, Std.TransCmp k.cmp) :
    Std.TransCmp c.compare := by
  apply transCmp_firstDifference
  intro f hf
  obtain ⟨k, hk, rfl⟩ := List.mem_map.mp hf
  have := h k hk
  exact transCmp_apply k.dir

end RecordQuery
