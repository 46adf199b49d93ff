import RecordQuery.Proofs.Compile.Trichotomy

/-!
# Membership and containment select by equality

Membership (`[]`) and containment in a list field (`=*`) have tests of their own, but both bring
their literals to the field's kind as equality does, and both then test equality of field values
(`FieldValue.equals`). So they select exactly what equality selects (`selects_by_equality`):

- membership of a scalar field in an array is always built, and accepts a value exactly when
  equality with one of the items is built and accepts it: the items that equality refuses are
  dropped;
- containment of a literal that is no array in a list field is always built, and accepts a list
  exactly when equality with the literal, on the element kind, is built and accepts one of its
  elements.

The second holds for every element kind. No literal is brought to a kind that is not scalar
(`coerce_value_of_not_isScalar`), so on a list of lists equality is never built and containment
accepts nothing.
-/

namespace RecordQuery

open Checked

/-- No literal is brought to a kind that is not scalar. -/
theorem coerce_value_of_not_isScalar {k : ValueKind} (hk : k.isScalar = false) (w : Value) :
    (coerce w k).value = none := by
  have hne : k ≠ .text := by
    rintro rfl
    cases hk
  rw [coerce_value_of_ne_text hne]
  cases hp : w.asScalar? with
  | none => rfl
  | some p =>
    -- what the literal stands for is a scalar, whose kind is scalar
    have harr := Value.isArray_of_asScalar? hp
    cases k <;> cases p <;>
      simp_all [ValueKind.isScalar, coerceScalar, Value.kind, Value.isArray]

namespace Condition

variable {field : String} {k : ValueKind} {l : Value}

/-- Equality is built exactly when the literal is brought to the field's kind, on every kind. -/
theorem result_build_eq_iff {ce : Condition} :
    result (build field k .eq l) = .ok ce ↔
      ∃ w, (coerce l k).value = some w ∧ ce = ⟨.compare .eq w, false⟩ := by
  cases hs : k.isScalar
  · -- a collection is never compared, and no literal is brought to it
    have hfail : result (build field k .eq l) =
        .error (.unsupportedOperator field (some .eq) k .collectionCompared) := by
      simp [build, comparison, hs, FilterOperator.isOrdering, FilterOperator.base]
    simp [hfail, coerce_value_of_not_isScalar hs]
  · rw [result_build_comparison (by decide) hs (fun h => absurd h (by decide))]
    cases (coerce l k).value with
    | none => simp
    | some w =>
      simp only [Except.ok.injEq, Option.some.injEq, exists_eq_left']
      exact eq_comm

/-- Equality with a literal accepts the values that equal it; null equals nothing. -/
@[simp] theorem accepts_compare_eq (w : Value) (v : FieldValue) :
    (⟨.compare .eq w, false⟩ : Condition).accepts v = v.equals w := by
  cases v
  case null => rfl
  all_goals
    simp only [accepts, FieldValue.isNull, Bool.false_eq_true, if_false, Test.eval,
      FieldValue.equals, Bool.bne_false]
    split <;> simp_all [FilterOperator.evalOrdering]

/-- Membership accepts the values that equal one of its items. -/
@[simp] theorem accepts_member (ws : List Value) (v : FieldValue) :
    (⟨.member ws, false⟩ : Condition).accepts v = ws.any v.equals := by
  cases v
  case null => simp [accepts, FieldValue.isNull, FieldValue.equals, FieldValue.compare?]
  all_goals simp [accepts, FieldValue.isNull, Test.eval]

/-- Containment accepts the lists with an element equal to its literal, if it has one. -/
theorem accepts_listContains_list (w : Option Value) (es : List FieldValue) :
    (⟨.listContains w, false⟩ : Condition).accepts (.list es) =
      w.any fun w => es.any (·.equals w) := by
  cases w <;> simp [accepts, FieldValue.isNull, Test.eval, FieldValue.asList?]

/-- Some built equality has a property when the literal brought to the kind gives the equality
with it. -/
theorem exists_build_eq_iff {P : Condition → Prop} :
    (∃ ce, result (build field k .eq l) = .ok ce ∧ P ce) ↔
      ∃ w, (coerce l k).value = some w ∧ P ⟨.compare .eq w, false⟩ := by
  constructor
  · rintro ⟨ce, hce, hP⟩
    obtain ⟨w, hw, rfl⟩ := result_build_eq_iff.mp hce
    exact ⟨w, hw, hP⟩
  · rintro ⟨w, hw, hP⟩
    exact ⟨_, result_build_eq_iff.mpr ⟨w, hw, rfl⟩, hP⟩

/-- Membership of a scalar field in an array is built, with the items that the field's kind
takes. -/
theorem result_build_mem (hk : k.isScalar = true) (items : List Value) :
    result (build field k .mem (.array items)) =
      .ok ⟨.member (items.filterMap fun w => (coerce w k).value), false⟩ := by
  simp only [build, Value.asArray?, hk, Bool.not_true, Bool.false_eq_true, if_false]
  rw [result_bind, result_lift, Logged.value_filterMapM]
  rfl

/-- Containment in a list field of a literal that is no array is built, with the literal the
element kind takes, if any. -/
theorem result_build_has_list (hl : l.isArray = false) :
    result (build field (.list k) .has l) = .ok ⟨.listContains (coerce l k).value, false⟩ := by
  simp only [build, hl, Bool.false_eq_true, if_false]
  rw [result_bind, result_lift]
  rfl

end Condition

open Condition

/-- Membership and containment select what equality selects: membership of a scalar field in an
array is built and accepts what equality with one of the items accepts, and containment of a
literal that is no array in a list field is built and accepts the lists of which equality with
the literal, on the element kind, accepts an element. -/
structure SelectsByEquality (field : String) : Prop where
  /-- Membership accepts what equality with some item is built to accept. -/
  mem : ∀ k, k.isScalar = true → ∀ items : List Value,
    ∃ c, result (build field k .mem (.array items)) = .ok c ∧ ∀ v, c.accepts v = true ↔
      ∃ item ∈ items, ∃ ce, result (build field k .eq item) = .ok ce ∧ ce.accepts v = true
  /-- Containment accepts the lists of which equality with the literal accepts an element. -/
  has : ∀ k l, l.isArray = false →
    ∃ c, result (build field (.list k) .has l) = .ok c ∧ ∀ es, c.accepts (.list es) = true ↔
      ∃ ce, result (build field k .eq l) = .ok ce ∧ ∃ e ∈ es, ce.accepts e = true

/-- Membership and containment are equality, item by item and element by element. -/
theorem selects_by_equality (field : String) : SelectsByEquality field where
  mem k hk items := by
    refine ⟨_, result_build_mem hk items, fun v => ?_⟩
    simp only [accepts_member, List.any_eq_true, List.mem_filterMap]
    constructor
    · rintro ⟨w, ⟨item, hitem, hw⟩, heq⟩
      exact ⟨item, hitem, exists_build_eq_iff.mpr ⟨w, hw, by simpa using heq⟩⟩
    · rintro ⟨item, hitem, h⟩
      obtain ⟨w, hw, heq⟩ := exists_build_eq_iff.mp h
      exact ⟨w, ⟨item, hitem, hw⟩, by simpa using heq⟩
  has k l hl := by
    refine ⟨_, result_build_has_list hl, fun es => ?_⟩
    rw [accepts_listContains_list, exists_build_eq_iff]
    cases (coerce l k).value with
    | none => simp
    | some w => simp [List.any_eq_true]

/-- On the integer kind, membership of an identifier in `[3, "7"]` accepts what equality with 3
or with the text `7` accepts; on a list of texts, containment of `a` accepts the lists with an
element that equality with `a` accepts. -/
theorem selects_by_equality_idsAndTags :
    ValueKind.integer.isScalar = true ∧
      (∃ c, result (build "Id" .integer .mem (.array [Value.ofInt 3, .text "7"])) = .ok c ∧
        ∀ v, c.accepts v = true ↔ ∃ item ∈ [Value.ofInt 3, .text "7"], ∃ ce,
          result (build "Id" .integer .eq item) = .ok ce ∧ ce.accepts v = true) ∧
      (Value.text "a").isArray = false ∧
      (∃ c, result (build "Tags" (.list .text) .has (.text "a")) = .ok c ∧ ∀ es,
        c.accepts (.list es) = true ↔ ∃ ce, result (build "Tags" .text .eq (.text "a")) = .ok ce ∧
          ∃ e ∈ es, ce.accepts e = true) :=
  ⟨rfl, (selects_by_equality "Id").mem .integer rfl _, rfl,
    (selects_by_equality "Tags").has .text _ rfl⟩

end RecordQuery
