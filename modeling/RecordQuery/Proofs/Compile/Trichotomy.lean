import RecordQuery.Proofs.Compile.Mixed
import RecordQuery.Proofs.Compile.Literal
import RecordQuery.Proofs.Value.Equal
import RecordQuery.Proofs.Sort.Key

/-!
# Comparisons on orderable fields are total

A comparison filter on a scalar field is built from one thing only: the literal brought to the
field's kind. The operator picks which outcome of the comparison the filter wants and whether
it inverts it, nothing more. So on an orderable field the six comparisons with one literal are
built together or not at all (`Condition.result_build_comparison`).

The literal that a field of an orderable kind takes compares with every value of that kind
that is neither null nor NaN, as long as the literal itself is no NaN
(`Condition.compare?_coerce_isSome`): a text field takes a text; a float field a float, or an
integer widened to the nearest double; an integer field an integer or a float, compared with
the integer rounded to the nearest double; the other kinds a value of their own kind. A
comparison that succeeds has exactly one outcome, so exactly one of `<`, `=` and `>` accepts
such a value, `>=` accepts what `>` or `=` accepts and `<=` what `<` or `=` accepts
(`comparisons_trichotomous`).
-/

namespace RecordQuery

open Checked

namespace Binary64

/-- Two doubles that are not NaN are ordered. -/
theorem isSome_compare? {x y : Binary64} (hx : x.isNaN = false) (hy : y.isNaN = false) :
    (x.compare? y).isSome = true := by
  simp only [compare?, hx, hy, Bool.or_self, Bool.false_eq_true, if_false]
  split <;> rfl

/-- The double nearest an `i128` is not NaN. -/
theorem isNaN_ofInt (a : Int128) : (ofInt a.val).isNaN = false :=
  isNaN_eq_false_of_isFinite (isFinite_ofInt a.natAbs_lt)

end Binary64

namespace FieldValue

/-- The value is a NaN float. -/
def isNaN : FieldValue → Bool
  | .float x => x.isNaN
  | _ => false

/-- A value of the kind `k` that comparisons order: neither null nor NaN. -/
structure Orderable (k : ValueKind) (v : FieldValue) : Prop where
  fits : v.fitsScalar k = true
  not_null : v.isNull = false
  not_nan : v.isNaN = false

/-- Two values that are neither null nor NaN, of one scalar kind or both numbers, compare. -/
theorem isSome_compare? {k k' : ValueKind} {u v : FieldValue} (hu : u.Orderable k)
    (hv : v.Orderable k') (hk : k = k' ∨ k.isNumeric = true ∧ k'.isNumeric = true) :
    (u.compare? v).isSome = true := by
  obtain ⟨hfu, hnu, hxu⟩ := hu
  obtain ⟨hfv, hnv, hxv⟩ := hv
  -- each side is a scalar of its kind; the kinds agree or are both numeric
  cases u <;> cases v <;> simp only [fitsScalar, beq_iff_eq, isNull, isNaN,
    Bool.false_eq_true, Bool.true_eq_false] at hfu hfv hnu hnv hxu hxv <;> subst hfu hfv <;>
    simp only [ValueKind.isNumeric, reduceCtorEq, Bool.false_eq_true, and_false, false_and,
      and_self, or_false, or_true] at hk
  all_goals simp [compare?, Binary64.isSome_compare?, Binary64.isNaN_ofInt, *]

end FieldValue

namespace Value

/-- A scalar shows its own kind as a field value. -/
theorem fitsScalar_asField {w : Value} (hw : w.isArray = false) :
    w.asField.fitsScalar w.kind = true := by
  cases w <;> first | rfl | cases hw

/-- What a literal stands for is never an array. -/
theorem isArray_of_asScalar? {l p : Value} (h : l.asScalar? = some p) : p.isArray = false := by
  cases l with
  | array => cases h
  | text t =>
    simp only [asScalar?] at h
    split at h
    · cases h
    · rename_i hread
      cases h
      have hscalar : (read t).isArray = false ∧ (read t).isText = false := by simpa using hread
      exact hscalar.1
  | _ =>
    cases h
    rfl

/-- What a literal that is no NaN stands for is no NaN: a text stands for what it reads as,
which never is. -/
theorem isNaN_of_asScalar? {l p : Value} (h : l.asScalar? = some p)
    (hl : l.asField.isNaN = false) : p.asField.isNaN = false := by
  cases l with
  | array => cases h
  | text t =>
    simp only [asScalar?] at h
    split at h
    · cases h
    · cases h
      have hno := noNaN_read t
      cases hp : read t <;> simp_all [noNaN, asField, FieldValue.isNaN]
  | _ =>
    cases h
    exact hl

end Value

namespace Condition

variable {field : String} {k : ValueKind} {l w : Value}

/-- A literal that a field of kind `k` takes is a scalar, no NaN when the literal is none, and
of the kind `k` or, for a number, of the other numeric kind. -/
theorem coerce_facts (hl : l.asField.isNaN = false) (hw : (coerce l k).value = some w) :
    w.isArray = false ∧ w.asField.isNaN = false ∧
      (w.kind = k ∨ k.isNumeric = true ∧ w.kind.isNumeric = true) := by
  by_cases hk : k = .text
  · -- a text field takes the literal's text
    subst hk
    rw [coerce_value_text] at hw
    split at hw
    · cases hw
    · cases hw
      exact ⟨rfl, rfl, .inl rfl⟩
  · rw [coerce_value_of_ne_text hk] at hw
    obtain ⟨p, hp, hw⟩ := Option.bind_eq_some_iff.mp hw
    have harr := Value.isArray_of_asScalar? hp
    have hnan := Value.isNaN_of_asScalar? hp hl
    unfold coerceScalar at hw
    split at hw
    · -- an integer widened for a float field
      cases hw
      exact ⟨rfl, Binary64.isNaN_ofInt _, .inl rfl⟩
    · -- a float kept for an integer field
      cases hw
      exact ⟨rfl, hnan, .inr ⟨rfl, rfl⟩⟩
    · split at hw
      · rename_i hkind
        cases hw
        exact ⟨harr, hnan, .inl (by simpa using hkind)⟩
      · cases hw

/-- The literal that a field of an orderable kind takes compares with every value of the kind
that is neither null nor NaN. -/
theorem compare?_coerce_isSome (hl : l.asField.isNaN = false) (hw : (coerce l k).value = some w)
    {v : FieldValue} (hv : v.Orderable k) : (v.compare? w.asField).isSome = true := by
  obtain ⟨harr, hnan, hkind⟩ := coerce_facts hl hw
  have hw' : w.asField.Orderable w.kind := ⟨Value.fitsScalar_asField harr, by cases w <;> rfl, hnan⟩
  refine FieldValue.isSome_compare? hv hw' ?_
  rcases hkind with h | h
  · exact .inl h.symm
  · exact .inr h

/-- On a scalar field that orders as the operator needs, a comparison is built exactly when the
literal is brought to the field's kind, from that literal alone. -/
theorem result_build_comparison {op : FilterOperator} (hop : op ∈ comparisons)
    (hs : k.isScalar = true) (hord : op.base.isOrdering = true → k.isOrderable = true) :
    result (build field k op l) = match (coerce l k).value with
      | some w => .ok ⟨.compare op.base w, op.isNegated⟩
      | none => .error (.unsupportedOperator field (some op) k (.incomparable l.kind)) := by
  rw [build_of_mem_comparisons hop]
  unfold comparison
  have hguard : (op.base.isOrdering && !k.isOrderable) = false := by
    cases h : op.base.isOrdering
    · rfl
    · simp [hord h]
  rw [if_neg (by simp [hguard]), if_neg (by simp [hs]), result_bind, result_lift]
  cases (coerce l k).value <;> rfl

end Condition

open Condition

/-- The six comparisons of a field of kind `k` with the literal `l` are built together or not at
all; when they are built, exactly one of `<`, `=` and `>` accepts each value of the kind that is
neither null nor NaN, `>=` accepts what `>` or `=` accepts and `<=` what `<` or `=` accepts. -/
structure ComparesTotally (field : String) (k : ValueKind) (l : Value) : Prop where
  /-- Either every comparison is built, or none is. -/
  built_together : (∀ op ∈ comparisons, (result (build field k op l)).isOk = true) ∨
    ∀ op ∈ comparisons, (result (build field k op l)).isOk = false
  /-- Exactly one of `<`, `=` and `>` accepts an orderable value. -/
  trichotomy : ∀ cl ce cg, result (build field k .lt l) = .ok cl →
    result (build field k .eq l) = .ok ce → result (build field k .gt l) = .ok cg →
    ∀ v, v.Orderable k → [cl.accepts v, ce.accepts v, cg.accepts v].count true = 1
  /-- `>=` accepts what `>` or `=` accepts. -/
  ge_eq : ∀ ce cg cge, result (build field k .eq l) = .ok ce →
    result (build field k .gt l) = .ok cg → result (build field k .ge l) = .ok cge →
    ∀ v, v.Orderable k → cge.accepts v = (cg.accepts v || ce.accepts v)
  /-- `<=` accepts what `<` or `=` accepts. -/
  le_eq : ∀ ce cl cle, result (build field k .eq l) = .ok ce →
    result (build field k .lt l) = .ok cl → result (build field k .le l) = .ok cle →
    ∀ v, v.Orderable k → cle.accepts v = (cl.accepts v || ce.accepts v)

section Trichotomy

variable {field : String} {k : ValueKind} {l : Value}

theorem isScalar_of_isOrderable (hk : k.isOrderable = true) : k.isScalar = true := by
  simp only [ValueKind.isOrderable, Bool.and_eq_true] at hk
  exact hk.1

/-- On an orderable field, a comparison that is built is the comparison with the literal the
field's kind takes. -/
theorem eq_compare_of_build (hk : k.isOrderable = true) {op : FilterOperator}
    (hop : op ∈ comparisons) {c : Condition} (h : result (build field k op l) = .ok c) :
    ∃ w, (coerce l k).value = some w ∧ c = ⟨.compare op.base w, op.isNegated⟩ := by
  rw [result_build_comparison hop (isScalar_of_isOrderable hk) fun _ => hk] at h
  cases hw : (coerce l k).value with
  | none => simp [hw] at h
  | some w =>
    simp only [hw, Except.ok.injEq] at h
    exact ⟨w, rfl, h.symm⟩

theorem comparisons_built_together (hk : k.isOrderable = true) :
    (∀ op ∈ comparisons, (result (build field k op l)).isOk = true) ∨
      ∀ op ∈ comparisons, (result (build field k op l)).isOk = false := by
  cases hw : (coerce l k).value with
  | some w =>
    left
    intro op hop
    simp [result_build_comparison hop (isScalar_of_isOrderable hk) fun _ => hk, hw,
      Except.isOk, Except.toBool]
  | none =>
    right
    intro op hop
    simp [result_build_comparison hop (isScalar_of_isOrderable hk) fun _ => hk, hw,
      Except.isOk, Except.toBool]

/-- The comparisons that are built decide by one outcome: that of comparing the value with the
literal the field's kind takes. -/
theorem exists_outcome_of_orderable (field : String) (hk : k.isOrderable = true)
    (hl : l.asField.isNaN = false) {v : FieldValue} (hv : v.Orderable k) :
    ∃ o, ∀ op ∈ comparisons, ∀ c, result (build field k op l) = .ok c →
      c.accepts v = op.evalOrdering o := by
  cases hw : (coerce l k).value with
  | none =>
    -- nothing is built
    refine ⟨.eq, fun op hop c h => ?_⟩
    obtain ⟨w, hw', -⟩ := eq_compare_of_build hk hop h
    rw [hw] at hw'
    cases hw'
  | some w =>
    obtain ⟨o, ho⟩ := Option.isSome_iff_exists.mp (compare?_coerce_isSome hl hw hv)
    refine ⟨o, fun op hop c h => ?_⟩
    obtain ⟨w', hw', rfl⟩ := eq_compare_of_build hk hop h
    rw [hw, Option.some.injEq] at hw'
    subst hw'
    exact accepts_compare hop ho

end Trichotomy

/-- On a field of an orderable kind, with a literal that is no NaN, the comparisons are built
together or not at all, and when built they order every value of the kind that is neither null
nor NaN: exactly one of `<`, `=` and `>` accepts it, and `>=` and `<=` accept what `>` or `=`,
and `<` or `=`, accept. -/
theorem comparisons_trichotomous {field : String} {k : ValueKind} {l : Value}
    (hk : k.isOrderable = true) (hl : l.asField.isNaN = false) : ComparesTotally field k l where
  built_together := comparisons_built_together hk
  trichotomy cl ce cg hlt heq hgt v hv := by
    obtain ⟨o, ho⟩ := exists_outcome_of_orderable field hk hl hv
    rw [ho .lt (by decide) cl hlt, ho .eq (by decide) ce heq, ho .gt (by decide) cg hgt]
    cases o <;> rfl
  ge_eq ce cg cge heq hgt hge v hv := by
    obtain ⟨o, ho⟩ := exists_outcome_of_orderable field hk hl hv
    rw [ho .eq (by decide) ce heq, ho .gt (by decide) cg hgt, ho .ge (by decide) cge hge]
    cases o <;> rfl
  le_eq ce cl cle heq hlt hle v hv := by
    obtain ⟨o, ho⟩ := exists_outcome_of_orderable field hk hl hv
    rw [ho .eq (by decide) ce heq, ho .lt (by decide) cl hlt, ho .le (by decide) cle hle]
    cases o <;> rfl

/-- On an integer field the literal text ` 2.5 ` is read as a float, and the comparisons with it
order every integer. -/
theorem comparisons_trichotomous_integerFloatText :
    ValueKind.integer.isOrderable = true ∧ (Value.text " 2.5 ").asField.isNaN = false ∧
      ComparesTotally "Id" .integer (.text " 2.5 ") :=
  ⟨rfl, rfl, comparisons_trichotomous rfl rfl⟩

end RecordQuery
