import RecordQuery.Proofs.Compile.Apply

/-!
# Deferred composition

A query collects filters and comparators step by step and runs them later. Compiled
definitions extend a query (`Compiled.applyTo`): with their combined filter when they have
filters, then with their sort keys in turn, the first sorting anew and the later ones sorting
further, a descending key through its comparator reversed. Reversing a comparator is applying
the descending direction to it, so every sort key adds its directed comparator
(`Query.addSortKey`), and after the sort keys the query compares by exactly the directed
comparators of the definitions, its earlier ones discarded (`Compiled.orders_applyTo`).
Without sort keys it keeps its own.

Running the extended query therefore keeps the records that pass the query's filters and the
definitions' filters, sorted stably by the definitions' comparison when they have sort keys
and by the query's own comparators otherwise (`Compiled.run_applyTo`). A fresh query extended
by compiled definitions runs as applying the definitions does (`applyTo_run_of_compile`).
-/

namespace RecordQuery

variable {α : Type}

/-- The comparator of a sort key with its direction applied. -/
def SortKey.directed (k : SortKey α) (a b : α) : Ordering := k.dir.apply (k.cmp a b)

theorem Compiled.compare_eq (c : Compiled α) :
    c.compare = firstDifference (c.orders.map SortKey.directed) := rfl

namespace Query

/-- Adds the sort key at a position of the definitions' sort keys: the first sorts anew, every
later one sorts further, each by its directed comparator. -/
def addSortKey (q : Query α) (p : SortKey α × Nat) : Query α :=
  if p.2 = 0 then q.orderBy p.1.directed else q.thenBy p.1.directed

/-- Running a query is sorting the records that pass by its comparators in turn; without
comparators the comparison finds all records equal, and the sort keeps them as they are. -/
theorem run_eq_sortStable (q : Query α) (src : List α) :
    q.run src =
      sortStable (firstDifference q.orders) (src.filter fun r => q.filters.all fun f => f r) := by
  unfold run
  dsimp only
  split
  · rename_i hnil
    rw [List.isEmpty_iff.mp hnil]
    exact (sortStable_of_forall_eq (fun _ _ => rfl) _).symm
  · rfl

/-- Sort keys after the first only append their directed comparators. -/
theorem foldl_addSortKey_succ (ks : List (SortKey α)) (q : Query α) (n : Nat) :
    (ks.zipIdx (n + 1)).foldl addSortKey q =
      { q with orders := q.orders ++ ks.map SortKey.directed } := by
  induction ks generalizing q n with
  | nil => simp
  | cons k ks ih =>
    rw [List.zipIdx_cons, List.foldl_cons, ih]
    simp [addSortKey, thenBy]

/-- The first sort key discards the earlier comparators. -/
theorem foldl_addSortKey (ks : List (SortKey α)) (q : Query α) :
    ks.zipIdx.foldl addSortKey q =
      if ks = [] then q else { q with orders := ks.map SortKey.directed } := by
  cases ks with
  | nil => rfl
  | cons k ks =>
    rw [List.zipIdx_cons, List.foldl_cons, foldl_addSortKey_succ]
    simp [addSortKey, orderBy]

end Query

namespace Compiled

/-- Each sort key, ascending or descending, first or later, adds its directed comparator. -/
theorem applyTo_eq_foldl (c : Compiled α) (q : Query α) :
    c.applyTo q =
      c.orders.zipIdx.foldl Query.addSortKey
        (if c.filters.isEmpty then q else q.filter c.predicate) := by
  unfold applyTo
  dsimp only
  congr 1
  funext q p
  obtain ⟨⟨cmp, dir⟩, i⟩ := p
  -- a descending key reverses its comparator, which is what its direction does
  cases dir <;> cases i <;> rfl

/-- The definitions' sort keys replace the query's comparators; without sort keys the query
keeps its own. -/
theorem orders_applyTo (c : Compiled α) (q : Query α) :
    (c.applyTo q).orders = if c.orders = [] then q.orders else c.orders.map SortKey.directed := by
  rw [applyTo_eq_foldl, Query.foldl_addSortKey]
  split <;> split <;> rfl

/-- The definitions' filter joins the query's filters. -/
theorem filters_applyTo (c : Compiled α) (q : Query α) :
    (c.applyTo q).filters = if c.filters.isEmpty then q.filters else q.filters ++ [c.predicate] := by
  rw [applyTo_eq_foldl, Query.foldl_addSortKey]
  split <;> split <;> rfl

/-- A record passes the extended query's filters when it passes the query's and the
definitions'. -/
theorem passes_applyTo (c : Compiled α) (q : Query α) (r : α) :
    ((c.applyTo q).filters.all fun f => f r) = ((q.filters.all fun f => f r) && c.passes r) := by
  rw [filters_applyTo]
  split
  · rename_i hnil
    simp [passes, List.isEmpty_iff.mp hnil]
  · simp [predicate]

/-- Running a query extended by compiled definitions keeps the records that pass the query's
filters and the definitions' filters, and sorts them stably by the definitions' comparison, or
by the query's own comparators when the definitions have no sort keys. -/
theorem run_applyTo (c : Compiled α) (q : Query α) (src : List α) :
    (c.applyTo q).run src =
      sortStable (if c.orders = [] then firstDifference q.orders else c.compare)
        (src.filter fun r => (q.filters.all fun f => f r) && c.passes r) := by
  rw [Query.run_eq_sortStable, orders_applyTo, compare_eq]
  congr 1
  · split <;> rfl
  · exact List.filter_congr fun r _ => passes_applyTo c q r

end Compiled

variable [Queryable α] {table : Overrides α}

/-- Compiled definitions have sort keys exactly when the definitions do. -/
theorem orders_eq_nil_iff_of_compile {d : Definitions} {c : Compiled α}
    (h : Checked.result (compile d table) = .ok c) : c.orders = [] ↔ d.orders = [] := by
  rw [← List.length_eq_zero_iff, Checked.length_of_result_mapM (compile_eq_ok h).2,
    List.length_eq_zero_iff]

/-- Deferred composition agrees with applying: extending any query by compiled definitions and
running it on any source keeps the records that pass the query's filters and every filter of
the definitions, sorted stably by the definitions' comparison when they have sort keys (the
query's earlier comparators discarded) and by the query's comparators otherwise. A fresh
query extended so runs as applying the definitions does. -/
theorem applyTo_run_of_compile {d : Definitions} {c : Compiled α}
    (hc : Checked.result (compile d table) = .ok c) (q : Query α) (src : List α) :
    (c.applyTo q).run src =
        sortStable (if d.orders = [] then firstDifference q.orders else c.compare)
          (src.filter fun r => (q.filters.all fun f => f r) && c.passes r) ∧
      Checked.result (applyDefinitions src d table) = .ok ((c.applyTo {}).run src) := by
  have hfresh : (c.applyTo {}).run src = c.apply src := by
    rw [c.run_applyTo, c.apply_eq_sortStable]
    congr 1
    · -- without sort keys both comparisons find all records equal
      split
      · rename_i hnil
        rw [Compiled.compare_eq, hnil]
        rfl
      · rfl
  refine ⟨by rw [c.run_applyTo]; simp only [orders_eq_nil_iff_of_compile hc], ?_⟩
  simp only [applyDefinitions, Checked.result_bind, hc, Checked.result_pure, hfresh]

/-- Keep the sample records other than the first, sorted by position, descending. -/
def laterRecsByIdx : Query Rec :=
  { filters := [fun r => r.idx != 0], orders := [fun a b => compare b.idx a.idx] }

/-- The active sample records sorted by name, descending, on top of a query that drops the
first record and sorts by position: the sort by name replaces the sort by position. -/
theorem applyTo_run_of_compile_activeByName :
    ∃ c : Compiled Rec, Checked.result (compile activeByName {}) = .ok c ∧
      ((c.applyTo laterRecsByIdx).run namedRecs =
          sortStable (if activeByName.orders = [] then firstDifference laterRecsByIdx.orders
            else c.compare)
            (namedRecs.filter fun r => (laterRecsByIdx.filters.all fun f => f r) && c.passes r) ∧
        Checked.result (applyDefinitions namedRecs activeByName {}) =
          .ok ((c.applyTo {}).run namedRecs)) := by
  obtain ⟨c, hc⟩ := Checked.exists_eq_ok_of_isOk
    (by decide +kernel : (Checked.result (compile activeByName ({} : Overrides Rec))).isOk = true)
  exact ⟨c, hc, applyTo_run_of_compile hc laterRecsByIdx namedRecs⟩

end RecordQuery
