import RecordQuery.Compile

/-!
# Stable sorting

`sortStable cmp xs` sorts with the library's merge sort. When `cmp` is a total preorder, the
result is the one list that holds the items of `xs`, has no item right before a smaller one,
and keeps the items that compare equal to one another in their order in `xs`
(`sortedStably_iff_eq_sortStable`).

Existence is the merge sort's own laws: it permutes, it sorts, and it keeps every sorted
sublist. Uniqueness needs no sort at all: two sorted lists with the same items can differ only
in how they order items that compare equal, and stability fixes that order
(`eq_of_perm_of_pairwise`).
-/

namespace RecordQuery

variable {α : Type}

/-- `out` is `src` sorted stably by `cmp`: it holds the items of `src`, no item stands right
before one that it compares greater than, and for every item, the items that compare equal to
it come in their order in `src`. -/
structure SortedStably (cmp : α → α → Ordering) (src out : List α) : Prop where
  perm : out.Perm src
  sorted : ∀ a b, [a, b] <:+: out → cmp a b ≠ .gt
  stable : ∀ x, out.filter (fun y => cmp x y == .eq) = src.filter (fun y => cmp x y == .eq)

variable {cmp : α → α → Ordering}

/-- Sorted neighbours make a sorted list when the comparator is transitive. -/
theorem pairwise_of_adjacent [Std.TransCmp cmp] {l : List α}
    (h : ∀ a b, [a, b] <:+: l → cmp a b ≠ .gt) : l.Pairwise fun a b => cmp a b ≠ .gt := by
  induction l with
  | nil => exact .nil
  | cons x rest ih =>
    have hrest := ih fun a b hab => h a b (List.infix_cons hab)
    refine .cons (fun y hy => ?_) hrest
    cases rest with
    | nil => cases hy
    | cons z rest =>
      have hxz : cmp x z ≠ .gt := h x z ⟨[], rest, rfl⟩
      rcases List.mem_cons.mp hy with rfl | hy
      · exact hxz
      · -- `x` is before `z`, which is before `y`
        have hzy := List.rel_of_pairwise_cons hrest hy
        exact Ordering.ne_gt_iff_isLE.mpr (Std.TransCmp.isLE_trans
          (Ordering.ne_gt_iff_isLE.mp hxz) (Ordering.ne_gt_iff_isLE.mp hzy))

theorem adjacent_of_pairwise {R : α → α → Prop} {l : List α} (h : l.Pairwise R) :
    ∀ a b, [a, b] <:+: l → R a b := fun _ _ hab =>
  List.pairwise_pair.mp (h.sublist hab.sublist)

/-- Two sorted lists with the same items that order every class of equal items alike are
equal. The induction is on the first list: both lists start with a least item, the two least
items compare equal, and the class they share starts with one in the first list and with the
other in the second. -/
theorem eq_of_perm_of_pairwise [Std.OrientedCmp cmp] {l₁ l₂ : List α} (hp : l₁.Perm l₂)
    (h₁ : l₁.Pairwise fun a b => cmp a b ≠ .gt) (h₂ : l₂.Pairwise fun a b => cmp a b ≠ .gt)
    (hf : ∀ x, l₁.filter (fun y => cmp x y == .eq) = l₂.filter (fun y => cmp x y == .eq)) :
    l₁ = l₂ := by
  induction l₁ generalizing l₂ with
  | nil => exact hp.nil_eq
  | cons a t ih =>
    cases l₂ with
    | nil => exact absurd hp.symm.nil_eq (List.cons_ne_nil a t).symm
    | cons b u =>
      -- each first item is not greater than anything in its list, the other first item included
      have hab : cmp a b ≠ .gt := by
        rcases List.mem_cons.mp (hp.symm.subset (List.mem_cons_self (a := b) (l := u))) with
          rfl | hb
        · simp [Std.ReflCmp.compare_self]
        · exact List.rel_of_pairwise_cons h₁ hb
      have hba : cmp b a ≠ .gt := by
        rcases List.mem_cons.mp (hp.subset (List.mem_cons_self (a := a) (l := t))) with
          rfl | ha
        · simp [Std.ReflCmp.compare_self]
        · exact List.rel_of_pairwise_cons h₂ ha
      have heq : cmp a b = .eq := Std.OrientedCmp.isLE_antisymm
        (Ordering.ne_gt_iff_isLE.mp hab) (Ordering.ne_gt_iff_isLE.mp hba)
      -- the class of `a` starts with `a` in the first list and with `b` in the second
      have hfa := hf a
      simp only [List.filter_cons, Std.ReflCmp.compare_self, heq, beq_self_eq_true, if_true,
        List.cons.injEq] at hfa
      obtain ⟨rfl, -⟩ := hfa
      -- what follows the first items has the same items and orders every class alike
      refine congrArg (a :: ·) (ih hp.cons_inv h₁.of_cons h₂.of_cons fun x => ?_)
      have hx := hf x
      by_cases hxa : (cmp x a == .eq) = true
      · simpa [List.filter_cons, hxa] using hx
      · simpa [List.filter_cons, hxa] using hx

theorem le_iff_isLE (a b : α) : (cmp a b != .gt) = true ↔ (cmp a b).isLE = true := by
  cases cmp a b <;> decide

section Merge

variable [Std.TransCmp cmp]

/-- The order that the merge sort is given is transitive. -/
theorem sortStable_trans (a b c : α) (hab : (cmp a b != .gt) = true)
    (hbc : (cmp b c != .gt) = true) : (cmp a c != .gt) = true := by
  rw [le_iff_isLE] at hab hbc ⊢
  exact Std.TransCmp.isLE_trans hab hbc

/-- The order that the merge sort is given is total: an item greater than another is below
it the other way round. -/
theorem sortStable_total (a b : α) : ((cmp a b != .gt) || (cmp b a != .gt)) = true := by
  cases h : cmp a b with
  | gt => simp [Std.OrientedCmp.lt_of_gt h]
  | lt => rfl
  | eq => rfl

/-- The items that compare equal to one item are sorted among themselves. -/
theorem pairwise_filter_eq (x : α) (l : List α) :
    (l.filter fun y => cmp x y == .eq).Pairwise fun a b => (cmp a b != .gt) = true := by
  apply List.pairwise_iff_forall_sublist.mpr
  intro a b hab
  have ha : cmp x a = .eq := by
    simpa using (List.mem_filter.mp (hab.subset (List.mem_cons_self))).2
  have hb : cmp x b = .eq := by
    simpa using (List.mem_filter.mp (hab.subset (List.mem_cons_of_mem a List.mem_cons_self))).2
  have hab' : cmp a b = .eq := Std.TransCmp.eq_trans (Std.OrientedCmp.eq_symm ha) hb
  simp [hab']

/-- Sorting stably keeps every class of equal items in its order. -/
theorem filter_sortStable (x : α) (src : List α) :
    (sortStable cmp src).filter (fun y => cmp x y == .eq) = src.filter (fun y => cmp x y == .eq) := by
  -- the class is a sorted sublist of the input, so it stays a sublist of the output
  have hsub : (src.filter fun y => cmp x y == .eq).Sublist (sortStable cmp src) :=
    List.sublist_mergeSort sortStable_trans sortStable_total (pairwise_filter_eq x src)
      (List.filter_sublist)
  have hsub' := hsub.filter (fun y => cmp x y == .eq)
  rw [List.filter_filter, List.filter_congr (fun y _ => Bool.and_self _)] at hsub'
  -- and it is as long as the class in the output, which has the same items
  have hlen := ((List.mergeSort_perm src fun a b => cmp a b != .gt).filter
    (fun y => cmp x y == .eq)).length_eq
  exact (hsub'.eq_of_length hlen.symm).symm

/-- Sorting stably gives a stable sort. -/
theorem sortStable_sortedStably (src : List α) : SortedStably cmp src (sortStable cmp src) where
  perm := List.mergeSort_perm _ _
  sorted := by
    have hp : (sortStable cmp src).Pairwise fun a b => (cmp a b != .gt) = true :=
      List.pairwise_mergeSort sortStable_trans sortStable_total src
    intro a b hab
    have hle := adjacent_of_pairwise hp a b hab
    simpa using hle
  stable := fun x => filter_sortStable x src

/-- A stable sort by a total preorder is the one that `sortStable` gives. -/
theorem sortedStably_iff_eq_sortStable {src out : List α} :
    SortedStably cmp src out ↔ out = sortStable cmp src := by
  constructor
  · intro h
    have hs : SortedStably cmp src (sortStable cmp src) := sortStable_sortedStably src
    exact eq_of_perm_of_pairwise (h.perm.trans hs.perm.symm) (pairwise_of_adjacent h.sorted)
      (pairwise_of_adjacent hs.sorted) fun x => (h.stable x).trans (hs.stable x).symm
  · rintro rfl
    exact sortStable_sortedStably src

end Merge

/-- Sorting by a comparator that finds everything equal changes nothing. -/
theorem sortStable_of_forall_eq (h : ∀ a b, cmp a b = .eq) (src : List α) :
    sortStable cmp src = src :=
  List.mergeSort_of_pairwise (List.pairwise_of_forall fun a b => by simp [h a b])

end RecordQuery
