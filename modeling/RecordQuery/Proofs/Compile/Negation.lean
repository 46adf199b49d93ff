import RecordQuery.Proofs.Compile.Override
import Mathlib.Tactic.SplitIfs

/-!
# Negated filters select the complement

A negated operator (`!=`, `!*`, `![]`, `!^`, `!$`) runs the test of its base operator and
inverts the outcome. Every branch of building a condition decides the test, and every check
that can fail, from the base operator alone, and only then sets the inversion from the
operator; so building with a negated operator fails exactly where building with its base fails,
and otherwise gives the base's condition inverted (`Condition.build_negated`). An inverted
condition accepts exactly what the condition refuses, null included, since null is decided by
the inversion flag alone (`Condition.accepts_invert`).

On records, a filter with a negated operator and the same filter with the base operator read
the same field through the same override with the same literal, so alone in a query they both
fail to compile or split the records in two (`applyDefinitions_single_negated`): the records
one predicate keeps and the records it refuses, each in source order.
-/

namespace RecordQuery

open Checked

namespace FilterOperator

/-- The base of an operator is not negated. -/
@[simp] theorem isNegated_base (op : FilterOperator) : op.base.isNegated = false := by
  cases op <;> rfl

end FilterOperator

namespace Condition

/-- The same test with its outcome inverted. -/
def invert (c : Condition) : Condition := ⟨c.test, !c.negated⟩

/-- The inverted condition accepts exactly the field values the condition refuses, null
included. -/
@[simp] theorem accepts_invert (c : Condition) (v : FieldValue) :
    c.invert.accepts v = !c.accepts v := by
  unfold accepts invert
  split <;> cases c.negated <;> simp

variable {field : String} {k : ValueKind} {l : Value}

/-- A comparison decides its test and its errors from the base operator; the operator only
sets the inversion. -/
theorem comparison_negated (base : FilterOperator) :
    (result (comparison field k .ne base l)).toOption =
      (result (comparison field k .eq base l)).toOption.map invert := by
  simp only [comparison]
  split_ifs
  · rfl
  · rfl
  · rw [result_bind, result_bind, result_lift]
    cases (coerce l k).value <;> rfl

/-- A negated operator builds the condition of its base operator inverted, and fails exactly
where its base fails. -/
theorem build_negated {op : FilterOperator} (hop : op.isNegated = true) :
    (result (build field k op l)).toOption =
      (result (build field k op.base l)).toOption.map invert := by
  cases op
  case ne => exact comparison_negated .eq
  case notHas =>
    simp only [build, FilterOperator.base]
    split
    · rfl
    · -- containment in a text or in a list; any other kind fails for both
      cases k <;> rfl
  case notMem =>
    simp only [build, FilterOperator.base]
    cases l.asArray? with
    | none => rfl
    | some items =>
      dsimp only
      split_ifs <;> rfl
  case notStartsWith | notEndsWith =>
    simp only [build, FilterOperator.base]
    split_ifs <;> rfl
  all_goals exact absurd hop (by decide)

/-- Building with a negated operator succeeds exactly when building with its base does. -/
theorem isOk_build_negated {op : FilterOperator} (hop : op.isNegated = true) :
    (result (build field k op l)).isOk = (result (build field k op.base l)).isOk := by
  have h := @build_negated field k l _ hop
  cases hb : result (build field k op.base l) <;> cases hn : result (build field k op l) <;>
    simp_all [Except.toOption, Except.isOk, Except.toBool]

/-- Conditions built with a negated operator and with its base accept complementary field
values. -/
theorem accepts_build_negated {op : FilterOperator} (hop : op.isNegated = true) {c c' : Condition}
    (hc : result (build field k op l) = .ok c) (hc' : result (build field k op.base l) = .ok c')
    (v : FieldValue) : c.accepts v = !c'.accepts v := by
  have h := @build_negated field k l _ hop
  rw [hc, hc'] at h
  obtain rfl : c = c'.invert := Option.some.inj h
  exact accepts_invert c' v

end Condition

variable {α : Type} [Queryable α] (table : Overrides α)

/-- Applying definitions made of one filter keeps the records that the compiled filter
accepts, in source order. -/
theorem result_applyDefinitions_single (f : FilterDef) (src : List α) :
    result (applyDefinitions src ⟨[f], []⟩ table) =
      (result (compileFilter table f)).map fun p => src.filter p := by
  simp only [applyDefinitions, compile, List.mapM_cons, List.mapM_nil, result_bind,
    result_pure]
  cases result (compileFilter table f) with
  | error e => rfl
  | ok p =>
    have hpasses : Compiled.passes ⟨[p], []⟩ = p := funext fun r => by simp [Compiled.passes]
    simp [Compiled.apply, hpasses, Except.map]

/-- A filter with a negated operator and the filter with its base, alone in a query, both fail
to compile or split the source in two: the records one predicate keeps, and the records it
refuses, each in source order. -/
theorem applyDefinitions_single_negated {op : FilterOperator} (hop : op.isNegated = true)
    (src : List α) (F : String) (value : Value) (text : Option String) :
    ((result (applyDefinitions src ⟨[⟨F, op, value, text⟩], []⟩ table)).isOk = false ∧
      (result (applyDefinitions src ⟨[⟨F, op.base, value, text⟩], []⟩ table)).isOk = false) ∨
    ∃ p : α → Bool,
      result (applyDefinitions src ⟨[⟨F, op.base, value, text⟩], []⟩ table) =
        .ok (src.filter p) ∧
      result (applyDefinitions src ⟨[⟨F, op, value, text⟩], []⟩ table) =
        .ok (src.filter fun r => !p r) := by
  simp only [result_applyDefinitions_single]
  cases ha : result (Access.resolve α F (table.find? .filter F)) with
  | error e =>
    -- the field does not resolve, for either operator
    left
    simp [compileFilter, result_bind, ha, Except.map, Except.isOk, Except.toBool]
  | ok a =>
    rw [result_compileFilter ha, result_compileFilter ha]
    dsimp only
    -- the literal does not depend on the operator
    have hlit : FilterDef.literalFor ⟨F, op, value, text⟩ a.kind =
        FilterDef.literalFor ⟨F, op.base, value, text⟩ a.kind := rfl
    rw [hlit]
    generalize FilterDef.literalFor ⟨F, op.base, value, text⟩ a.kind = lit
    have hneg := @Condition.build_negated F a.kind lit _ hop
    cases hb : result (Condition.build F a.kind op.base lit) with
    | error e =>
      left
      rw [hb] at hneg
      cases hn : result (Condition.build F a.kind op lit) with
      | error e' => exact ⟨rfl, rfl⟩
      | ok c => simp [hn, Except.toOption] at hneg
    | ok c' =>
      right
      rw [hb] at hneg
      refine ⟨fun r => c'.accepts (a.read r), rfl, ?_⟩
      rw [eq_ok_of_toOption hneg]
      simp [Except.map]

/-- An operator selects exactly the complement of what its base operator selects: on
conditions, for every field, kind and literal, and on records, for every record type, set of
overrides and source, with the operator and its base alone in a query. -/
structure SelectsComplement (op : FilterOperator) : Prop where
  /-- The condition exists exactly when the base's does. -/
  isOk_build : ∀ (field : String) (k : ValueKind) (l : Value),
    (result (Condition.build field k op l)).isOk =
      (result (Condition.build field k op.base l)).isOk
  /-- Each field value, null included, is accepted by exactly one of the two conditions. -/
  accepts_build : ∀ (field : String) (k : ValueKind) (l : Value) (c c' : Condition),
    result (Condition.build field k op l) = .ok c →
      result (Condition.build field k op.base l) = .ok c' → ∀ v, c.accepts v = !c'.accepts v
  /-- The two one-filter queries both fail, or keep complementary parts of the source, each in
  source order. -/
  applyDefinitions_single : ∀ (β : Type) [Queryable β] (table : Overrides β) (src : List β)
    (F : String) (value : Value) (text : Option String),
    ((result (applyDefinitions src ⟨[⟨F, op, value, text⟩], []⟩ table)).isOk = false ∧
      (result (applyDefinitions src ⟨[⟨F, op.base, value, text⟩], []⟩ table)).isOk = false) ∨
    ∃ p : β → Bool,
      result (applyDefinitions src ⟨[⟨F, op.base, value, text⟩], []⟩ table) =
        .ok (src.filter p) ∧
      result (applyDefinitions src ⟨[⟨F, op, value, text⟩], []⟩ table) =
        .ok (src.filter fun r => !p r)

/-- A negated filter selects exactly the complement of its base filter. -/
theorem negated_selects_complement {op : FilterOperator} (hop : op.isNegated = true) :
    SelectsComplement op where
  isOk_build _ _ _ := Condition.isOk_build_negated hop
  accepts_build _ _ _ _ _ hc hc' := Condition.accepts_build_negated hop hc hc'
  applyDefinitions_single _ _ table src F value text :=
    applyDefinitions_single_negated table hop src F value text

/-- Membership in a list of values, negated, selects the complement of membership. -/
theorem negated_selects_complement_notMem :
    FilterOperator.notMem.isNegated = true ∧ SelectsComplement .notMem :=
  ⟨rfl, negated_selects_complement rfl⟩

end RecordQuery
