import RecordQuery.Error
import Mathlib.Data.List.Forall2

/-!
# Outcomes of checked computations

Decoding and compiling run in `Checked`: they report log lines and then succeed or fail.
What a query does is decided by the outcome alone, so `Checked.result` forgets the lines,
and the lemmas of this file compute the outcome of `pure`, `fail`, `lift`, `>>=` and `<$>`,
and of the two list loops that decoding and compiling run, `foldlM` and `mapM`. A map
succeeds item by item (`result_mapM_eq_ok_iff`) and fails with the error of its first failing
step (`result_mapM_eq_error_iff`).

`Logged` is a lawful monad: its lines are a list under `++`. Stating that once lets the list
lemmas of the core library (`List.mapM_cons`, `List.foldlM_cons`) apply to checked loops.
-/

namespace RecordQuery

/-- Two logged results are equal when their values and their lines are. -/
theorem Logged.ext' {α : Type} {x y : Logged α} (hv : x.value = y.value) (hl : x.log = y.log) :
    x = y := by
  cases x
  cases y
  cases hv
  cases hl
  rfl

instance : LawfulMonad Logged := LawfulMonad.mk' Logged
  (fun x => Logged.ext' rfl (List.append_nil _))
  (fun _ _ => rfl)
  (fun _ _ _ => Logged.ext' rfl (List.append_assoc _ _ _))

/-- The value of a logged loop is the pure loop over the values of its steps. -/
theorem Logged.value_foldlM {α β : Type} (f : β → α → Logged β) (xs : List α) (init : β) :
    (xs.foldlM f init).value = xs.foldl (fun b a => (f b a).value) init := by
  induction xs generalizing init with
  | nil => rfl
  | cons x xs ih =>
    rw [List.foldlM_cons, Logged.value_bind, ih]
    rfl

/-- The value of a logged `filterMapM` keeps what the values of its steps give. -/
theorem Logged.value_filterMapM {α β : Type} (f : α → Logged (Option β)) (xs : List α) :
    (xs.filterMapM f).value = xs.filterMap fun a => (f a).value := by
  induction xs with
  | nil => rfl
  | cons x xs ih =>
    rw [List.filterMapM_cons, Logged.value_bind, List.filterMap_cons]
    cases (f x).value with
    | none => exact ih
    | some b =>
      simp only [Logged.value_bind, ih]
      rfl

namespace Checked

variable {α β : Type}

/-- The outcome of a checked computation, without its log lines. -/
def result (x : Checked α) : Except QueryError α := x.run.value

@[simp] theorem result_pure (a : α) : result (pure a : Checked α) = .ok a := rfl

@[simp] theorem result_fail (e : QueryError) : result (fail e : Checked α) = .error e := rfl

@[simp] theorem result_lift (x : Logged α) : result (lift x) = .ok x.value := rfl

/-- A failure stops a chain; a success passes its value on. -/
@[simp] theorem result_bind (x : Checked α) (f : α → Checked β) :
    result (x >>= f) = match result x with
      | .ok a => result (f a)
      | .error e => .error e := by
  simp only [result]
  show (x.run >>= ExceptT.bindCont f).value = _
  cases h : x.run.value with
  | error e => simp [h, ExceptT.bindCont]
  | ok a =>
    simp [h, ExceptT.bindCont]
    rfl

@[simp] theorem result_map (f : α → β) (x : Checked α) :
    result (f <$> x) = match result x with
      | .ok a => .ok (f a)
      | .error e => .error e := by
  rw [← bind_pure_comp, result_bind]
  cases result x <;> rfl

/-- A chain succeeds exactly when its first step does and the rest succeeds from there. -/
theorem result_bind_eq_ok {x : Checked α} {f : α → Checked β} {b : β} :
    result (x >>= f) = .ok b ↔ ∃ a, result x = .ok a ∧ result (f a) = .ok b := by
  rw [result_bind]
  cases result x with
  | error e => simp
  | ok a => simp

/-- A loop over a list whose every step succeeds succeeds with the pure fold of the steps. -/
theorem result_foldlM_of_ok {f : β → α → Checked β} {g : β → α → β} {xs : List α}
    (h : ∀ b, ∀ a ∈ xs, result (f b a) = .ok (g b a)) (init : β) :
    result (xs.foldlM f init) = .ok (xs.foldl g init) := by
  induction xs generalizing init with
  | nil => rfl
  | cons x xs ih =>
    rw [List.foldlM_cons, result_bind, h init x List.mem_cons_self]
    exact ih (fun b a ha => h b a (List.mem_cons_of_mem x ha)) (g init x)

/-- A property that the start of a loop has and that every successful step keeps holds of
what the loop returns. -/
theorem result_foldlM_invariant {f : β → α → Checked β} {P : β → Prop} {xs : List α}
    (hstep : ∀ b a b', a ∈ xs → P b → result (f b a) = .ok b' → P b') {init out : β}
    (hinit : P init) (h : result (xs.foldlM f init) = .ok out) : P out := by
  induction xs generalizing init with
  | nil =>
    rw [List.foldlM_nil, result_pure, Except.ok.injEq] at h
    exact h ▸ hinit
  | cons x xs ih =>
    rw [List.foldlM_cons, result_bind_eq_ok] at h
    obtain ⟨b, hb, hrest⟩ := h
    exact ih (fun b a b' ha => hstep b a b' (List.mem_cons_of_mem x ha))
      (hstep init x b List.mem_cons_self hinit hb) hrest

/-- When mapping succeeds, every result comes from an item on which the step succeeds. -/
theorem exists_of_result_mapM {f : α → Checked β} {xs : List α} {ys : List β}
    (h : result (xs.mapM f) = .ok ys) : ∀ y ∈ ys, ∃ a ∈ xs, result (f a) = .ok y := by
  induction xs generalizing ys with
  | nil =>
    cases h
    simp
  | cons x xs ih =>
    rw [List.mapM_cons, result_bind_eq_ok] at h
    obtain ⟨b, hb, hrest⟩ := h
    rw [result_bind_eq_ok] at hrest
    obtain ⟨bs, hbs, hys⟩ := hrest
    cases hys
    intro y hy
    rcases List.mem_cons.mp hy with rfl | hy
    · exact ⟨x, List.mem_cons_self, hb⟩
    · obtain ⟨a, ha, hfa⟩ := ih hbs y hy
      exact ⟨a, List.mem_cons_of_mem x ha, hfa⟩

/-- A successful map has one result per item. -/
theorem length_of_result_mapM {f : α → Checked β} {xs : List α} {ys : List β}
    (h : result (xs.mapM f) = .ok ys) : ys.length = xs.length := by
  induction xs generalizing ys with
  | nil =>
    cases h
    rfl
  | cons x xs ih =>
    rw [List.mapM_cons, result_bind_eq_ok] at h
    obtain ⟨b, -, hrest⟩ := h
    rw [result_bind_eq_ok] at hrest
    obtain ⟨bs, hbs, hys⟩ := hrest
    cases hys
    simp [ih hbs]

/-- Maps whose steps have the same outcome on every item have the same outcome. -/
theorem result_mapM_congr {f g : α → Checked β} {xs : List α}
    (h : ∀ a ∈ xs, result (f a) = result (g a)) : result (xs.mapM f) = result (xs.mapM g) := by
  induction xs with
  | nil => rfl
  | cons x xs ih =>
    rw [List.mapM_cons, List.mapM_cons, result_bind, result_bind, h x List.mem_cons_self]
    cases result (g x) with
    | error e => rfl
    | ok b =>
      simp only [result_bind, ih fun a ha => h a (List.mem_cons_of_mem x ha)]

/-- An outcome is a success when its optional view has the value: decidable equality of
values then decides equality of outcomes, whatever the errors are. -/
theorem eq_ok_of_toOption {r : Except QueryError α} {a : α} (h : r.toOption = some a) :
    r = .ok a := by
  cases r with
  | error e => cases h
  | ok b =>
    cases h
    rfl

/-- An outcome that is a success has a value: this names the value of a success that
evaluation decides. -/
theorem exists_eq_ok_of_isOk {r : Except QueryError α} (h : r.isOk = true) : ∃ a, r = .ok a := by
  cases r with
  | error e => cases h
  | ok a => exact ⟨a, rfl⟩

/-- A map succeeds with `ys` exactly when each item's step succeeds with the result at its
place. -/
theorem result_mapM_eq_ok_iff {f : α → Checked β} {xs : List α} {ys : List β} :
    result (xs.mapM f) = .ok ys ↔ List.Forall₂ (fun x y => result (f x) = .ok y) xs ys := by
  induction xs generalizing ys with
  | nil => cases ys <;> simp
  | cons x xs ih =>
    rw [List.mapM_cons, result_bind, List.forall₂_cons_left_iff]
    cases hx : result (f x) with
    | error e => simp
    | ok b =>
      simp only [result_bind, result_pure]
      cases hxs : result (xs.mapM f) with
      | error e => simp [← ih, hxs]
      | ok bs =>
        constructor
        · intro h
          simp only [Except.ok.injEq] at h
          exact ⟨b, bs, rfl, ih.mp hxs, h.symm⟩
        · rintro ⟨b', u, hb, hu, rfl⟩
          have hbs : Except.ok bs = .ok u := hxs.symm.trans (ih.mpr hu)
          cases hb
          cases hbs
          rfl

/-- A map succeeds exactly when every step does. -/
theorem isOk_result_mapM {f : α → Checked β} {xs : List α} :
    (result (xs.mapM f)).isOk = true ↔ ∀ x ∈ xs, (result (f x)).isOk = true := by
  induction xs with
  | nil => simp [Except.isOk, Except.toBool]
  | cons x xs ih =>
    rw [List.mapM_cons, result_bind, List.forall_mem_cons, ← ih]
    cases result (f x) with
    | error e => simp [Except.isOk, Except.toBool]
    | ok b =>
      simp only [result_bind, result_pure]
      cases result (xs.mapM f) <;> simp [Except.isOk, Except.toBool]

/-- The step at some place of a list fails with `e`, and every step before it succeeds. -/
def FirstError (step : α → Except QueryError β) (xs : List α) (e : QueryError) : Prop :=
  ∃ pre x post, xs = pre ++ x :: post ∧ (∀ y ∈ pre, (step y).isOk = true) ∧ step x = .error e

/-- A map of outcomes keeps whether they succeed. -/
theorem isOk_map {γ : Type} (g : β → γ) (r : Except QueryError β) :
    (r.map g).isOk = r.isOk := by
  cases r <;> rfl

/-- Mapping the successes of every step keeps the first error. -/
theorem firstError_map {γ : Type} {step : α → Except QueryError β} {g : β → γ}
    {xs : List α} {e : QueryError} :
    FirstError (fun x => (step x).map g) xs e ↔ FirstError step xs e := by
  have herr : ∀ x, (step x).map g = .error e ↔ step x = .error e := fun x => by
    cases step x <;> simp [Except.map]
  simp only [FirstError, isOk_map, herr]

/-- A map fails with the error of its first failing step. -/
theorem result_mapM_eq_error_iff {f : α → Checked β} {xs : List α} {e : QueryError} :
    result (xs.mapM f) = .error e ↔ FirstError (fun x => result (f x)) xs e := by
  induction xs with
  | nil => simp [FirstError]
  | cons x xs ih =>
    rw [List.mapM_cons, result_bind]
    constructor
    · intro h
      cases hx : result (f x) with
      | error e' =>
        -- the first item fails: nothing stands before it
        simp only [hx, Except.error.injEq] at h
        subst h
        exact ⟨[], x, xs, rfl, by simp, hx⟩
      | ok b =>
        simp only [hx, result_bind, result_pure] at h
        cases hxs : result (xs.mapM f) with
        | error e' =>
          simp only [hxs, Except.error.injEq] at h
          subst h
          obtain ⟨pre, y, post, rfl, hpre, hy⟩ := ih.mp hxs
          refine ⟨x :: pre, y, post, rfl, ?_, hy⟩
          simpa [hx, Except.isOk, Except.toBool] using hpre
        | ok bs => simp [hxs] at h
    · rintro ⟨pre, y, post, hsplit, hpre, hy⟩
      dsimp only at hpre hy
      cases pre with
      | nil =>
        obtain ⟨rfl, rfl⟩ := List.cons.inj (hsplit.trans (List.nil_append _))
        rw [hy]
      | cons z pre =>
        obtain ⟨hzx, hxs⟩ := List.cons.inj hsplit
        subst hzx
        obtain ⟨b, hb⟩ := exists_eq_ok_of_isOk (hpre x List.mem_cons_self)
        have hrest : result (xs.mapM f) = .error e :=
          ih.mpr ⟨pre, y, post, hxs, fun w hw => hpre w (List.mem_cons_of_mem x hw), hy⟩
        simp only [hb, result_bind, hrest]

/-- Chains whose first steps succeed alike, and whose rests succeed alike from every value,
succeed alike. -/
theorem toOption_result_bind_congr {x y : Checked α} {f g : α → Checked β}
    (hxy : (result x).toOption = (result y).toOption)
    (hfg : ∀ a, (result (f a)).toOption = (result (g a)).toOption) :
    (result (x >>= f)).toOption = (result (y >>= g)).toOption := by
  rw [result_bind, result_bind]
  cases hx : result x with
  | error e =>
    cases hy : result y with
    | error e' => rfl
    | ok b => simp [hx, hy, Except.toOption] at hxy
  | ok a =>
    cases hy : result y with
    | error e' => simp [hx, hy, Except.toOption] at hxy
    | ok b =>
      simp only [hx, hy, Except.toOption, Option.some.injEq] at hxy
      subst hxy
      exact hfg a

/-- Maps whose steps succeed alike on every item succeed alike. -/
theorem toOption_result_mapM_congr {f g : α → Checked β} {xs : List α}
    (h : ∀ a ∈ xs, (result (f a)).toOption = (result (g a)).toOption) :
    (result (xs.mapM f)).toOption = (result (xs.mapM g)).toOption := by
  induction xs with
  | nil => rfl
  | cons x xs ih =>
    rw [List.mapM_cons, List.mapM_cons]
    refine toOption_result_bind_congr (h x List.mem_cons_self) fun b => ?_
    exact toOption_result_bind_congr (ih fun a ha => h a (List.mem_cons_of_mem x ha))
      fun _ => rfl

end Checked

end RecordQuery
