import RecordQuery.Proofs.Checked
import RecordQuery.Proofs.Sort.Key
import RecordQuery.Proofs.Sort.Stable
import RecordQuery.Sample.Record

/-!
# Applying compiled definitions

Applying definitions keeps the records that pass every filter and sorts them stably by the
sort keys. When every field and every sort override of the record type reads null or a value
of its own kind (`SortsByKind`), each compiled sort key is a total preorder, and so is the
comparison by all of them (`transCmp_compare_of_compile`). Then the records that
`applyDefinitions` returns are the one stable sort of the records that pass
(`applyDefinitions_sortedStably`): they are those records, sorted, with the records that
compare equal in their order in the source. Without sort keys that is the passing records in
source order, and without filters as well it is the source itself.

Lists are values here, so applying definitions to a borrowed or to an owned collection is the
same function.

The sample record type sorts by kind (`Rec.sortsByKind`): its integer fields read integers or,
out of range, null, and its optional fields read null when absent.
-/

namespace RecordQuery

variable {α : Type}

/-- Applying is sorting the passing records stably; without sort keys the comparison finds
all records equal, and the sort keeps them as they are. -/
theorem Compiled.apply_eq_sortStable (c : Compiled α) (src : List α) :
    c.apply src = sortStable c.compare (src.filter c.passes) := by
  unfold Compiled.apply
  split
  · rename_i hnil
    rw [sortStable_of_forall_eq]
    intro a b
    simp [Compiled.compare, List.isEmpty_iff.mp hnil, firstDifference]
  · rfl

variable [Queryable α]

/-- Every field and every sort override of a scalar kind reads, from every record, null or a
value of that kind. -/
structure SortsByKind (α : Type) [Queryable α] (table : Overrides α) : Prop where
  fields : ∀ f ∈ Queryable.fields (α := α), f.kind.isScalar = true →
    ∀ r, (f.get r).fitsScalar f.kind = true
  overrides : ∀ o ∈ table.order, o.kind.isScalar = true →
    ∀ r, (o.read r).fitsScalar o.kind = true

namespace Access

/-- A field resolves to a field of the record type, or to the override it is given. -/
theorem resolve_eq_ok {name : String} {o : Option (Override α)} {a : Access α}
    (h : Checked.result (resolve α name o) = .ok a) :
    (∃ f ∈ Queryable.fields (α := α), a = .field f) ∨ (∃ ov, o = some ov ∧ a = .override ov) := by
  unfold resolve at h
  split at h
  · simp at h
  · rename_i f hf
    split at h
    · rename_i ov
      rw [Checked.result_pure, Except.ok.injEq] at h
      exact .inr ⟨ov, rfl, h.symm⟩
    · rw [Checked.result_pure, Except.ok.injEq] at h
      exact .inl ⟨f, List.mem_of_find?_eq_some hf, h.symm⟩

/-- A field that a sort key resolves reads values of its kind when the record type sorts by
kind and the kind is scalar. -/
theorem fitsScalar_of_resolve {table : Overrides α} (hk : SortsByKind α table) {name : String}
    {a : Access α} (h : Checked.result (resolve α name (table.find? .order name)) = .ok a)
    (hs : a.kind.isScalar = true) : ∀ r, (a.read r).fitsScalar a.kind = true := by
  rcases resolve_eq_ok h with ⟨f, hf, rfl⟩ | ⟨ov, hov, rfl⟩
  · exact hk.fields f hf hs
  · exact hk.overrides ov (List.mem_of_find?_eq_some hov) hs

end Access

variable {table : Overrides α}

/-- A compiled sort key compares by a total preorder. -/
theorem transCmp_compileOrder (hk : SortsByKind α table) {o : OrderDef} {key : SortKey α}
    (h : Checked.result (compileOrder table o) = .ok key) : Std.TransCmp key.cmp := by
  unfold compileOrder at h
  obtain ⟨a, ha, h⟩ := Checked.result_bind_eq_ok.mp h
  split at h
  · simp at h
  · -- the kind is sortable, so scalar
    rename_i hsort
    obtain ⟨-, -, h⟩ := Checked.result_bind_eq_ok.mp h
    rw [Checked.result_pure, Except.ok.injEq] at h
    subst h
    have hs : a.kind.isScalar = true := by simpa [ValueKind.isSortable] using hsort
    exact transCmp_sortCompare (Access.fitsScalar_of_resolve hk ha hs)

/-- Compiling succeeds with the filters and the sort keys that compiling each gives. -/
theorem compile_eq_ok {d : Definitions} {c : Compiled α}
    (h : Checked.result (compile d table) = .ok c) :
    Checked.result (d.filters.mapM (compileFilter table)) = .ok c.filters ∧
      Checked.result (d.orders.mapM (compileOrder table)) = .ok c.orders := by
  unfold compile at h
  obtain ⟨fs, hfs, h⟩ := Checked.result_bind_eq_ok.mp h
  obtain ⟨os, hos, h⟩ := Checked.result_bind_eq_ok.mp h
  rw [Checked.result_pure, Except.ok.injEq] at h
  subst h
  exact ⟨hfs, hos⟩

theorem filters_eq_nil_of_compile {d : Definitions} {c : Compiled α}
    (h : Checked.result (compile d table) = .ok c) (hd : d.filters = []) : c.filters = [] := by
  have hfs := (compile_eq_ok h).1
  rw [hd, List.mapM_nil, Checked.result_pure, Except.ok.injEq] at hfs
  exact hfs.symm

theorem orders_eq_nil_of_compile {d : Definitions} {c : Compiled α}
    (h : Checked.result (compile d table) = .ok c) (hd : d.orders = []) : c.orders = [] := by
  have hos := (compile_eq_ok h).2
  rw [hd, List.mapM_nil, Checked.result_pure, Except.ok.injEq] at hos
  exact hos.symm

/-- Compiled definitions of a record type that sorts by kind compare records by a total
preorder. -/
theorem transCmp_compare_of_compile (hk : SortsByKind α table) {d : Definitions}
    {c : Compiled α} (h : Checked.result (compile d table) = .ok c) : Std.TransCmp c.compare :=
  c.transCmp_compare fun key hkey => by
    obtain ⟨o, -, ho⟩ := Checked.exists_of_result_mapM (compile_eq_ok h).2 key hkey
    exact transCmp_compileOrder hk ho

/-- Applying compiled definitions gives the one stable sort of the records that pass: when
the record type sorts by kind and the definitions compile, the result is the only list that
holds the passing records, has no record right before one it compares greater than, and keeps
the records that compare equal in their order in the source. Without sort keys it is the
passing records in source order, and without filters as well the source. -/
theorem applyDefinitions_sortedStably (hk : SortsByKind α table) {d : Definitions}
    {c : Compiled α} (hc : Checked.result (compile d table) = .ok c) (src : List α) :
    ∃ out, Checked.result (applyDefinitions src d table) = .ok out ∧
      (∀ L, SortedStably c.compare (src.filter c.passes) L ↔ L = out) ∧
      (d.orders = [] → out = src.filter c.passes) ∧
      (d.filters = [] → d.orders = [] → out = src) := by
  have := transCmp_compare_of_compile hk hc
  refine ⟨c.apply src, ?_, fun L => ?_, fun hd => ?_, fun hf hd => ?_⟩
  · simp only [applyDefinitions, Checked.result_bind, hc, Checked.result_pure]
  · rw [sortedStably_iff_eq_sortStable, c.apply_eq_sortStable]
  · simp [Compiled.apply, orders_eq_nil_of_compile hc hd]
  · simp [Compiled.apply, Compiled.passes, orders_eq_nil_of_compile hc hd,
      filters_eq_nil_of_compile hc hf]

/-- Every scalar field of the sample record reads null or a value of its kind. -/
theorem Rec.sortsByKind : SortsByKind Rec {} where
  fields := by
    intro f hf hs r
    change f ∈ Rec.fields at hf
    simp only [Rec.fields, List.mem_cons, List.not_mem_nil, or_false] at hf
    rcases hf with rfl | rfl | rfl | rfl | rfl | rfl | rfl | rfl | rfl | rfl | rfl | rfl | rfl |
      rfl | rfl | rfl | rfl | rfl | rfl | rfl | rfl | rfl
    all_goals simp only [Field.of, FieldType.toField, FieldType.kind,
      FieldValue.fitsScalar_ofInt, ValueKind.isScalar, Bool.false_eq_true] at hs ⊢
    -- what is left is a value of the field's kind, or null for an absent optional value
    all_goals repeat' split
    all_goals rfl
  overrides := fun o ho => by cases ho

/-- Keep the active records and sort them by name, descending. -/
def activeByName : Definitions := ⟨[⟨"Active", .eq, .boolean true, none⟩], [⟨"Name", true⟩]⟩

/-- Four records, two of them active and named alike. -/
def namedRecs : List Rec :=
  [{ idx := 0, name := "b", active := true }, { idx := 1, name := "a", active := false },
    { idx := 2, name := "c", active := true }, { idx := 3, name := "b", active := true }]

/-- The active sample records sorted by name, descending, come out as their one stable sort. -/
theorem applyDefinitions_sortedStably_activeByName :
    ∃ c : Compiled Rec, Checked.result (compile activeByName {}) = .ok c ∧
      ∃ out, Checked.result (applyDefinitions namedRecs activeByName {}) = .ok out ∧
        (∀ L, SortedStably c.compare (namedRecs.filter c.passes) L ↔ L = out) ∧
        (activeByName.orders = [] → out = namedRecs.filter c.passes) ∧
        (activeByName.filters = [] → activeByName.orders = [] → out = namedRecs) := by
  obtain ⟨c, hc⟩ := Checked.exists_eq_ok_of_isOk
    (by decide +kernel : (Checked.result (compile activeByName ({} : Overrides Rec))).isOk = true)
  exact ⟨c, hc, applyDefinitions_sortedStably Rec.sortsByKind hc namedRecs⟩

end RecordQuery
