import RecordQuery.Compile
import RecordQuery.Proofs.Checked
import RecordQuery.Proofs.Value.ArrayRead

/-!
# Literals that compile alike

A filter's literal enters its condition in few ways: whether it is an array, its text on a
text field, the literal it is brought to on the field's kind or on the kind of the field's
elements, and, for the list operators, the items it brings to the field's kind.
`Condition.SameLiteral` collects these; two literals that agree on them build the same
condition under every operator, or both fail (`Condition.build_toOption`). Filters with such
literals compile alike (`compileFilter_toOption`), and so do definitions made of them, which
then select the same records (`applyDefinitions_toOption`).

Outside text fields a literal is brought to a kind through the scalar it stands for
(`coerce_value_of_ne_text`), which is how a text literal and the value it reads as meet.
-/

namespace RecordQuery

open Checked

/-- Outside text fields, a literal is brought to a kind through the scalar it stands for. -/
theorem coerce_value_of_ne_text {k : ValueKind} (hk : k ≠ .text) (w : Value) :
    (coerce w k).value = w.asScalar?.bind (coerceScalar · k) := by
  cases w with
  | array _ => rfl
  | text t =>
    -- the field's kind is not text, so the literal is read once and both sides decide on what
    -- it reads as
    unfold coerce
    rw [if_neg (by simp [Value.isArray])]
    simp only [Logged.value_bind, Value.asScalar?, Value.read]
    by_cases hc : ((Value.readLogged t).value.isArray || (Value.readLogged t).value.isText) = true
    · simp only [hc, if_true]
      rfl
    · simp only [hc]
      rfl
  | _ =>
    cases k with
    | text => exact absurd rfl hk
    | _ => rfl

/-- On a text field a literal is brought to its text, unless it is an array. -/
theorem coerce_value_text (w : Value) :
    (coerce w .text).value = if w.isArray then none else some (.text w.toText) := by
  cases w <;> rfl

/-- No literal is brought to a list kind. -/
theorem coerce_value_list (w : Value) (e : ValueKind) : (coerce w (.list e)).value = none := by
  rw [coerce_value_of_ne_text (by simp)]
  cases w.asScalar? with
  | none => rfl
  | some p =>
    cases p with
    | array items => cases items <;> rfl
    | _ => rfl

/-- Outside text fields, lists whose items stand for the same scalars bring the same items. -/
theorem filterMap_coerce_eq {k : ValueKind} (hk : k ≠ .text) {vs ws : List Value}
    (h : vs.map Value.asScalar? = ws.map Value.asScalar?) :
    vs.filterMap (fun w => (coerce w k).value) = ws.filterMap (fun w => (coerce w k).value) := by
  simp only [coerce_value_of_ne_text hk]
  rw [show (fun w : Value => w.asScalar?.bind (coerceScalar · k)) =
    (fun o => o.bind (coerceScalar · k)) ∘ Value.asScalar? from rfl, ← List.filterMap_map,
    ← List.filterMap_map, h]

namespace Condition

/-- Two literals that every operator turns into the same condition on a field of kind `k`:
they agree on being arrays, on their text where a text field reads it, on the literal they
bring to the field's kind or to its element kind, and, for lists, on the items they bring. -/
structure SameLiteral (k : ValueKind) (a b : Value) : Prop where
  isArray_eq : a.isArray = b.isArray
  toText_eq : k = .text → a.isArray = false → a.toText = b.toText
  coerce_eq : (coerce a k).value = (coerce b k).value
  coerce_element_eq : ∀ e, k = .list e → (coerce a e).value = (coerce b e).value
  members_eq : (a.asArray?.map fun items => items.filterMap fun w => (coerce w k).value) =
    (b.asArray?.map fun items => items.filterMap fun w => (coerce w k).value)

theorem SameLiteral.refl {k : ValueKind} {a : Value} : SameLiteral k a a :=
  ⟨Eq.refl _, fun _ _ => Eq.refl _, Eq.refl _, fun _ _ => Eq.refl _, Eq.refl _⟩

variable {field : String} {k : ValueKind} {a b : Value}

theorem comparison_toOption (h : (coerce a k).value = (coerce b k).value)
    (op base : FilterOperator) :
    (result (comparison field k op base a)).toOption =
      (result (comparison field k op base b)).toOption := by
  unfold comparison
  split_ifs
  · rfl
  · rfl
  · rw [result_bind, result_bind, result_lift, result_lift, h]
    cases (coerce b k).value <;> rfl

/-- Literals that agree as above build the same condition, or both fail. -/
theorem build_toOption (h : SameLiteral k a b) (op : FilterOperator) :
    (result (build field k op a)).toOption = (result (build field k op b)).toOption := by
  cases op
  case eq | ne | gt | ge | lt | le => exact comparison_toOption h.coerce_eq _ _
  case has | notHas =>
    simp only [build, h.isArray_eq]
    split
    · rfl
    · rename_i hb
      cases k with
      | text =>
        rw [h.toText_eq rfl (by simpa [h.isArray_eq] using hb)]
      | list e =>
        rw [result_bind, result_bind, result_lift, result_lift, h.coerce_element_eq e rfl]
      | _ => rfl
  case mem | notMem =>
    simp only [build]
    have hm := h.members_eq
    cases ha : a.asArray? with
    | none =>
      cases hb : b.asArray? with
      | none => rfl
      | some _ => simp [ha, hb] at hm
    | some xs =>
      cases hb : b.asArray? with
      | none => simp [ha, hb] at hm
      | some ys =>
        simp only [ha, hb, Option.map_some, Option.some.injEq] at hm
        split_ifs
        · rfl
        · rw [result_bind, result_bind, result_lift, result_lift, Logged.value_filterMapM,
            Logged.value_filterMapM, hm]
  case startsWith | notStartsWith | endsWith | notEndsWith =>
    simp only [build, h.isArray_eq]
    split_ifs with hk hb
    · rfl
    · rfl
    · rw [h.toText_eq (by simpa using hk) (by simpa [h.isArray_eq] using hb)]

end Condition

open Condition

section Compile

variable {α : Type} [Queryable α] (table : Overrides α)

/-- Filters on one field with one operator whose literals build the same condition on every
kind compile alike; the debug line, which shows the filter's value, is only logged. -/
theorem compileFilter_toOption {f g : FilterDef} (hfield : f.field = g.field)
    (hop : f.op = g.op) (hlit : ∀ k, SameLiteral k (f.literalFor k) (g.literalFor k)) :
    (result (compileFilter table f)).toOption = (result (compileFilter table g)).toOption := by
  unfold compileFilter
  rw [hfield, hop]
  refine toOption_result_bind_congr rfl fun access => ?_
  refine toOption_result_bind_congr (build_toOption (hlit _) _) fun cond => ?_
  rw [result_bind, result_bind, result_lift, result_lift]

/-- Definitions whose filters are mapped to filters that compile alike, with the same sort
keys, compile alike. -/
theorem compile_toOption_of_map {d e : Definitions} (g : FilterDef → FilterDef)
    (hf : e.filters = d.filters.map g) (ho : e.orders = d.orders)
    (hsame : ∀ f ∈ d.filters,
      (result (compileFilter table (g f))).toOption = (result (compileFilter table f)).toOption) :
    (result (compile e table)).toOption = (result (compile d table)).toOption := by
  unfold compile
  rw [hf, ho, List.mapM_map]
  exact toOption_result_bind_congr (toOption_result_mapM_congr hsame) fun _ => rfl

/-- Definitions that compile alike select alike. -/
theorem applyDefinitions_toOption {d e : Definitions}
    (h : (result (compile e table)).toOption = (result (compile d table)).toOption)
    (src : List α) :
    (result (applyDefinitions src e table)).toOption =
      (result (applyDefinitions src d table)).toOption := by
  unfold applyDefinitions
  exact toOption_result_bind_congr h fun _ => rfl

end Compile


end RecordQuery
