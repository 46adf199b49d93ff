import RecordQuery.Proofs.Compile.Apply
import Mathlib.Data.List.Perm.Basic

/-!
# Compiling definitions piece by piece

Compiling runs over the filters, then over the sort keys, and stops at the first error. A
filter or a sort key reads only its own field, the override registered for that field and the
record type, so each compiles as it would alone in a query. Hence definitions compile exactly
when each filter alone and each sort key alone does, and what they compile to is made of what
each piece compiles to (`compile_piecewise`):

- a record passes the compiled filters when it passes each filter compiled alone;
- two records compare by the first sort key, compiled alone, that tells them apart;
- a failure is the error of the first filter that fails alone or, when every filter compiles,
  of the first sort key that fails alone.

Passing every filter does not depend on their order, so definitions that compile select the
same records in the same order whatever the order of their filters.
-/

namespace RecordQuery

open Checked

variable {α : Type}

/-- One sort key alone compares as its direction says. -/
theorem Compiled.compare_order (k : SortKey α) :
    (⟨[], [k]⟩ : Compiled α).compare = fun a b => k.dir.apply (k.cmp a b) := by
  funext a b
  simp only [Compiled.compare, List.map_cons, List.map_nil, firstDifference]
  split <;> simp_all

/-- Compiled filters that are a permutation of each other let the same records pass. -/
theorem Compiled.passes_eq_of_perm {c c' : Compiled α} (h : c'.filters.Perm c.filters) :
    c'.passes = c.passes := by
  funext r
  have hall : (c'.filters.all fun f => f r) = true ↔ (c.filters.all fun f => f r) = true := by
    simp only [List.all_eq_true, h.mem_iff]
  exact Bool.eq_iff_iff.mpr hall

variable [Queryable α] (table : Overrides α)

section Pieces

/-- Definitions made of one filter compile to that filter alone. -/
theorem result_compile_filter (f : FilterDef) :
    result (compile { filters := [f] } table) =
      (result (compileFilter table f)).map fun p => ⟨[p], []⟩ := by
  simp only [compile, List.mapM_cons, List.mapM_nil, result_bind, result_pure]
  cases result (compileFilter table f) <;> rfl

/-- Definitions made of one sort key compile to that key alone. -/
theorem result_compile_order (o : OrderDef) :
    result (compile { orders := [o] } table) =
      (result (compileOrder table o)).map fun k => ⟨[], [k]⟩ := by
  simp only [compile, List.mapM_cons, List.mapM_nil, result_bind, result_pure]
  cases result (compileOrder table o) <;> rfl

theorem isOk_compile_filter (f : FilterDef) :
    (result (compile { filters := [f] } table)).isOk = (result (compileFilter table f)).isOk := by
  rw [result_compile_filter, isOk_map]

theorem isOk_compile_order (o : OrderDef) :
    (result (compile { orders := [o] } table)).isOk = (result (compileOrder table o)).isOk := by
  rw [result_compile_order, isOk_map]

/-- Compiling succeeds with what the filters and the sort keys compile to, and fails with the
error of the filters or, once they compile, of the sort keys. -/
theorem result_compile (d : Definitions) :
    result (compile d table) =
      match result (d.filters.mapM (compileFilter table)) with
      | .ok fs => (result (d.orders.mapM (compileOrder table))).map fun ks => ⟨fs, ks⟩
      | .error e => .error e := by
  simp only [compile, result_bind, result_pure]
  cases result (d.filters.mapM (compileFilter table)) with
  | error e => rfl
  | ok fs => cases result (d.orders.mapM (compileOrder table)) <;> rfl

end Pieces

/-- What compiling definitions gives, told by what each filter and each sort key compiles to
alone: success exactly when each piece compiles; a record passes when it passes each filter; two
records compare by the first sort key that tells them apart; the error is the first filter's
error or, when every filter compiles, the first sort key's; and the filters' order does not
matter to what applying selects. -/
structure CompilesPiecewise (table : Overrides α) (d : Definitions) : Prop where
  /-- The definitions compile exactly when each filter and each sort key compiles alone. -/
  isOk_iff : (result (compile d table)).isOk = true ↔
    (∀ f ∈ d.filters, (result (compile { filters := [f] } table)).isOk = true) ∧
      ∀ o ∈ d.orders, (result (compile { orders := [o] } table)).isOk = true
  /-- A record passes the filters when it passes each filter alone. -/
  passes : ∀ c, result (compile d table) = .ok c → ∃ cs : List (Compiled α),
    List.Forall₂ (fun f c' => result (compile { filters := [f] } table) = .ok c') d.filters cs ∧
      ∀ r, c.passes r = cs.all fun c' => c'.passes r
  /-- Two records compare by the first sort key alone that tells them apart. -/
  compare : ∀ c, result (compile d table) = .ok c → ∃ cs : List (Compiled α),
    List.Forall₂ (fun o c' => result (compile { orders := [o] } table) = .ok c') d.orders cs ∧
      ∀ a b, c.compare a b = firstDifference (cs.map Compiled.compare) a b
  /-- The error is that of the first filter that fails alone, or, when every filter compiles,
  that of the first sort key that fails alone. -/
  error_iff : ∀ e, result (compile d table) = .error e ↔
    FirstError (fun f => result (compile { filters := [f] } table)) d.filters e ∨
      (∀ f ∈ d.filters, (result (compile { filters := [f] } table)).isOk = true) ∧
        FirstError (fun o => result (compile { orders := [o] } table)) d.orders e
  /-- Definitions that compile select the same records in the same order with their filters in
  any order. -/
  perm_filters : ∀ d' : Definitions, d'.filters.Perm d.filters → d'.orders = d.orders →
    (result (compile d table)).isOk = true →
      ∀ src, result (applyDefinitions src d' table) = result (applyDefinitions src d table)

section Decomposition

variable {table}

theorem isOk_compile_iff (d : Definitions) :
    (result (compile d table)).isOk = true ↔
      (∀ f ∈ d.filters, (result (compile { filters := [f] } table)).isOk = true) ∧
        ∀ o ∈ d.orders, (result (compile { orders := [o] } table)).isOk = true := by
  simp only [isOk_compile_filter, isOk_compile_order, ← isOk_result_mapM]
  rw [result_compile table d]
  cases result (d.filters.mapM (compileFilter table)) with
  | error e => simp [Except.isOk, Except.toBool]
  | ok fs =>
    rw [isOk_map]
    simp [Except.isOk, Except.toBool]

theorem passes_of_compile {d : Definitions} {c : Compiled α}
    (h : result (compile d table) = .ok c) : ∃ cs : List (Compiled α),
      List.Forall₂ (fun f c' => result (compile { filters := [f] } table) = .ok c') d.filters cs ∧
        ∀ r, c.passes r = cs.all fun c' => c'.passes r := by
  have hfs := result_mapM_eq_ok_iff.mp (compile_eq_ok h).1
  refine ⟨c.filters.map fun p => ⟨[p], []⟩, ?_, fun r => ?_⟩
  · -- each filter compiles alone to its own predicate
    rw [List.forall₂_map_right_iff]
    exact hfs.imp fun f p hp => by rw [result_compile_filter, hp]; rfl
  · simp [Compiled.passes, List.all_map, Function.comp_def]

theorem compare_of_compile {d : Definitions} {c : Compiled α}
    (h : result (compile d table) = .ok c) : ∃ cs : List (Compiled α),
      List.Forall₂ (fun o c' => result (compile { orders := [o] } table) = .ok c') d.orders cs ∧
        ∀ a b, c.compare a b = firstDifference (cs.map Compiled.compare) a b := by
  have hos := result_mapM_eq_ok_iff.mp (compile_eq_ok h).2
  refine ⟨c.orders.map fun k => ⟨[], [k]⟩, ?_, fun a b => ?_⟩
  · -- each sort key compiles alone to its own comparison
    rw [List.forall₂_map_right_iff]
    exact hos.imp fun o k hk => by rw [result_compile_order, hk]; rfl
  · simp only [Compiled.compare, List.map_map, Function.comp_def, Compiled.compare_order]

theorem compile_eq_error_iff (d : Definitions) (e : QueryError) :
    result (compile d table) = .error e ↔
      FirstError (fun f => result (compile { filters := [f] } table)) d.filters e ∨
        (∀ f ∈ d.filters, (result (compile { filters := [f] } table)).isOk = true) ∧
          FirstError (fun o => result (compile { orders := [o] } table)) d.orders e := by
  simp only [result_compile_filter, result_compile_order, firstError_map, isOk_map,
    ← isOk_result_mapM, ← result_mapM_eq_error_iff]
  rw [result_compile table d]
  cases result (d.filters.mapM (compileFilter table)) with
  | error e' => simp [Except.isOk, Except.toBool]
  | ok fs =>
    cases result (d.orders.mapM (compileOrder table)) <;>
      simp [Except.map, Except.isOk, Except.toBool]

theorem applyDefinitions_perm_filters {d d' : Definitions} (hperm : d'.filters.Perm d.filters)
    (horders : d'.orders = d.orders) (hd : (result (compile d table)).isOk = true)
    (src : List α) :
    result (applyDefinitions src d' table) = result (applyDefinitions src d table) := by
  obtain ⟨c, hc⟩ := exists_eq_ok_of_isOk hd
  obtain ⟨hfs, hos⟩ := compile_eq_ok hc
  -- the filters of `d'` compile to the compiled filters of `d`, permuted
  obtain ⟨fs', hfs', hperm'⟩ := List.perm_comp_forall₂ hperm (result_mapM_eq_ok_iff.mp hfs)
  have hc' : result (compile d' table) = .ok ⟨fs', c.orders⟩ := by
    rw [result_compile table d', result_mapM_eq_ok_iff.mpr hfs', horders, hos]
    rfl
  have hpasses : (⟨fs', c.orders⟩ : Compiled α).passes = c.passes :=
    Compiled.passes_eq_of_perm hperm'
  simp only [applyDefinitions, result_bind, hc, hc', result_pure, Compiled.apply, hpasses]
  rfl

end Decomposition

/-- Compiling definitions is compiling each filter and each sort key alone: it succeeds exactly
when each does, the compiled definitions pass and compare records as the pieces do in turn,
the error is the first piece's error, filters before sort keys, and the filters' order does not
change what applying definitions that compile gives. -/
theorem compile_piecewise (d : Definitions) : CompilesPiecewise table d where
  isOk_iff := isOk_compile_iff d
  passes _ h := passes_of_compile h
  compare _ h := compare_of_compile h
  error_iff := compile_eq_error_iff d
  perm_filters _ hperm horders hd src := applyDefinitions_perm_filters hperm horders hd src

/-- The active records with an identifier above 1, sorted by name descending. -/
def activeAboveOne : Definitions :=
  ⟨[⟨"Active", .eq, .boolean true, none⟩, ⟨"Id", .gt, Value.ofInt 1, none⟩], [⟨"Name", true⟩]⟩

/-- The same definitions with their two filters swapped. -/
def aboveOneActive : Definitions := ⟨activeAboveOne.filters.reverse, activeAboveOne.orders⟩

/-- The definitions compile for the sample records; a record passes them when it passes each
filter compiled alone, they compare by the one sort key compiled alone, and swapping the
filters changes nothing that applying them gives. -/
theorem compile_piecewise_activeAboveOne :
    ∃ c : Compiled Rec, result (compile activeAboveOne {}) = .ok c ∧
      (∃ cs : List (Compiled Rec), List.Forall₂
          (fun f c' => result (compile { filters := [f] } ({} : Overrides Rec)) = .ok c')
          activeAboveOne.filters cs ∧ ∀ r, c.passes r = cs.all fun c' => c'.passes r) ∧
      (∃ cs : List (Compiled Rec), List.Forall₂
          (fun o c' => result (compile { orders := [o] } ({} : Overrides Rec)) = .ok c')
          activeAboveOne.orders cs ∧ ∀ a b, c.compare a b = firstDifference (cs.map Compiled.compare) a b) ∧
      aboveOneActive.filters.Perm activeAboveOne.filters ∧
      ∀ src : List Rec, result (applyDefinitions src aboveOneActive {}) =
        result (applyDefinitions src activeAboveOne {}) := by
  have hok : (result (compile activeAboveOne ({} : Overrides Rec))).isOk = true := by
    decide +kernel
  obtain ⟨c, hc⟩ := exists_eq_ok_of_isOk hok
  have hperm : aboveOneActive.filters.Perm activeAboveOne.filters := List.reverse_perm _
  have hpieces := compile_piecewise ({} : Overrides Rec) activeAboveOne
  exact ⟨c, hc, hpieces.passes c hc, hpieces.compare c hc, hperm,
    hpieces.perm_filters aboveOneActive hperm rfl hok⟩

end RecordQuery
