import RecordQuery.Proofs.Binary.Round
import RecordQuery.Binary.Shortest

/-!
# The shortest digits of a double lie in its rounding interval

`Shortest.digits m q` looks, for `n = 1, 2, …, 17` digits, at the two `n`-digit decimals
next to `x = m · 2^q` and keeps the first that lies between the halfway points to the
neighbours of `x`. That test is exact (`Shortest.cmpDecBin_eq`), so whatever the search
returns rounds back to `x` (`Shortest.digits_roundsTo`).

The search never runs out: at seventeen digits the decimals next to `x` are less than the
width of the interval apart, so one of them lies inside (`Shortest.attempt_sixteen_isSome`).
That needs the estimate of the decimal exponent of `x` not to be too large, which holds for
every binary exponent of a double; `Shortest.estimate_table` checks it exponent by exponent.
-/

namespace RecordQuery

namespace Shortest

/-! ### Exact comparison -/

theorem compare_div_of_pos {a b d : ℚ} (hd : 0 < d) : compare (a / d) (b / d) = compare a b := by
  rcases lt_trichotomy a b with h | rfl | h
  · rw [compare_lt_iff_lt.mpr h, compare_lt_iff_lt.mpr (div_lt_div_of_pos_right h hd)]
  · simp
  · rw [compare_gt_iff_gt.mpr h, compare_gt_iff_gt.mpr (div_lt_div_of_pos_right h hd)]

theorem compare_natCast (a b : ℕ) : compare (a : ℚ) (b : ℚ) = compare a b := by
  rcases lt_trichotomy a b with h | rfl | h
  · rw [compare_lt_iff_lt.mpr h, compare_lt_iff_lt.mpr (by exact_mod_cast h)]
  · simp
  · rw [compare_gt_iff_gt.mpr h, compare_gt_iff_gt.mpr (by exact_mod_cast h)]

theorem ten_zpow_eq (s : ℤ) :
    (10 : ℚ) ^ s = ((10 ^ s.toNat : ℕ) : ℚ) / ((10 ^ (-s).toNat : ℕ) : ℚ) := by
  obtain ⟨k, rfl | rfl⟩ := Int.eq_nat_or_neg s
  · simp
  · simp [zpow_neg]

/-- `cmpDecBin` compares `c · 10^s` with `u · 2^p` exactly. -/
theorem cmpDecBin_eq (c : ℕ) (s : ℤ) (u : ℕ) (p : ℤ) :
    cmpDecBin c s u p = compare ((c : ℚ) * 10 ^ s) ((u : ℚ) * 2 ^ p) := by
  -- both sides are the compared natural numbers over one positive denominator
  have hE : (0 : ℚ) < ((2 ^ (-p).toNat * 10 ^ (-s).toNat : ℕ) : ℚ) := by positivity
  have hl : (c : ℚ) * 10 ^ s = ((c * 10 ^ s.toNat * 2 ^ (-p).toNat : ℕ) : ℚ) /
      ((2 ^ (-p).toNat * 10 ^ (-s).toNat : ℕ) : ℚ) := by
    rw [ten_zpow_eq]
    push_cast
    field_simp
  have hr : (u : ℚ) * 2 ^ p = ((u * 2 ^ p.toNat * 10 ^ (-s).toNat : ℕ) : ℚ) /
      ((2 ^ (-p).toNat * 10 ^ (-s).toNat : ℕ) : ℚ) := by
    rw [FloatFormat.two_zpow_eq]
    push_cast
    field_simp
  rw [hl, hr, compare_div_of_pos hE, compare_natCast]
  rfl

/-- `floorDiv u p s` is the number of whole `10^s` in `u · 2^p`. -/
theorem floorDiv_spec (u : ℕ) (p s : ℤ) :
    (floorDiv u p s : ℚ) * 10 ^ s ≤ u * 2 ^ p ∧ (u : ℚ) * 2 ^ p < (floorDiv u p s + 1) * 10 ^ s := by
  set N := u * 2 ^ p.toNat * 10 ^ (-s).toNat
  set D := 2 ^ (-p).toNat * 10 ^ s.toNat
  set E := 2 ^ (-p).toNat * 10 ^ (-s).toNat
  have hE : (0 : ℚ) < E := by positivity
  have hD : 0 < D := by positivity
  have hu : (u : ℚ) * 2 ^ p = N / E := by
    rw [FloatFormat.two_zpow_eq]
    push_cast [N, E]
    field_simp
  have hten : (10 : ℚ) ^ s = D / E := by
    rw [ten_zpow_eq]
    push_cast [D, E]
    field_simp
  have hk : floorDiv u p s = N / D := by simp [floorDiv, Nat.pow_eq, N, D]
  have h1 : (N / D) * D ≤ N := Nat.div_mul_le_self N D
  have h2 : N < (N / D + 1) * D := by
    rw [Nat.add_mul, one_mul]
    exact Nat.lt_div_mul_add hD
  rw [hu, hten, hk, ← mul_div_assoc, ← mul_div_assoc, div_le_div_iff_of_pos_right hE,
    div_lt_div_iff_of_pos_right hE]
  exact ⟨by exact_mod_cast h1, by exact_mod_cast h2⟩

/-! ### The decimal exponent -/

/-- The estimate `⌊L · 78913 / 2^18⌋` of `⌊log₁₀ 2^L⌋` is at most one too large for every
binary exponent `L` of a double, from `-1074` up to `1023`. -/
theorem estimate_table :
    (List.range 2098).all (fun i =>
      cmpDecBin 1 (((i : ℤ) - 1074) * 78913 / 262144 - 1) 1 ((i : ℤ) - 1074) != .gt) = true := by
  decide +kernel

theorem estimate_le (L : ℤ) (h1 : -1074 ≤ L) (h2 : L ≤ 1023) :
    (10 : ℚ) ^ (L * 78913 / 262144 - 1) ≤ 2 ^ L := by
  have h := List.all_eq_true.mp estimate_table (L + 1074).toNat
    (List.mem_range.mpr (by omega))
  have hL : (((L + 1074).toNat : ℕ) : ℤ) - 1074 = L := by omega
  rw [hL, cmpDecBin_eq] at h
  simpa [compare_gt_iff_gt] using h

/-- `floorLog10 m q` is at most the decimal exponent of `m · 2^q`. -/
theorem floorLog10_le {m : ℕ} {q : ℤ} (hm : 0 < m) (hm' : m < 2 ^ 53) (hq1 : -1074 ≤ q)
    (hq2 : q ≤ 971) : (10 : ℚ) ^ floorLog10 m q ≤ m * 2 ^ q := by
  have hlog1 : 2 ^ m.log2 ≤ m := Nat.log2_self_le hm.ne'
  have hlog2 : m.log2 < 53 := (Nat.log2_lt hm.ne').mpr hm'
  have hpow : (2 : ℚ) ^ ((m.log2 : ℤ) + q) ≤ m * 2 ^ q := by
    rw [FloatFormat.two_zpow_nat_add]
    exact mul_le_mul_of_nonneg_right (by exact_mod_cast hlog1) (zpow_pos two_pos q).le
  have hest := estimate_le ((m.log2 : ℤ) + q) (by omega) (by omega)
  unfold floorLog10
  dsimp only
  split_ifs with h1 h2
  · exact hest.trans hpow
  · rw [cmpDecBin_eq] at h2
    simpa [compare_gt_iff_gt] using h2
  · rw [cmpDecBin_eq] at h1
    simpa [compare_gt_iff_gt] using h1

/-! ### The search -/

/-- A quarter of `2^q` is `2^(q-2)`: the search writes the rounding interval in quarters. -/
theorem mul_two_zpow_sub_two (n : ℚ) (q : ℤ) : n * 2 ^ (q - 2) = n / 4 * 2 ^ q := by
  rw [zpow_sub₀ two_ne_zero]
  ring

theorem inside_eq_true {lo hi : ℕ} {p : ℤ} {incl : Bool} {c : ℕ} {s : ℤ} :
    inside lo hi p incl c s = true ↔
      ((lo : ℚ) * 2 ^ p < c * 10 ^ s ∨ (incl = true ∧ (c : ℚ) * 10 ^ s = lo * 2 ^ p)) ∧
      ((c : ℚ) * 10 ^ s < hi * 2 ^ p ∨ (incl = true ∧ (c : ℚ) * 10 ^ s = hi * 2 ^ p)) := by
  simp only [inside, cmpDecBin_eq, Bool.and_eq_true, Bool.or_eq_true, beq_iff_eq,
    compare_gt_iff_gt, compare_eq_iff_eq, compare_lt_iff_lt]

variable {m : ℕ} {q : ℤ} {lowerHalf : Bool}

/-- The lower end of the interval, `4m - 1` or `4m - 2` quarters, is the halfway point to the
next lower double. -/
theorem lower_quarters (hm : 0 < m)
    (hgap : FloatFormat.binary64.lowerGap m q = if lowerHalf then 1 / 4 else 1 / 2) :
    (((if lowerHalf then 4 * m - 1 else 4 * m - 2 : ℕ)) : ℚ) * 2 ^ (q - 2) =
      ((m : ℚ) - FloatFormat.binary64.lowerGap m q) * 2 ^ q := by
  rw [mul_two_zpow_sub_two, hgap]
  cases lowerHalf with
  | false =>
    rw [if_neg (by decide), if_neg (by decide), Nat.cast_sub (by omega)]
    push_cast
    ring
  | true =>
    rw [if_pos rfl, if_pos rfl, Nat.cast_sub (by omega)]
    push_cast
    ring

theorem upper_quarters : (((4 * m + 2 : ℕ)) : ℚ) * 2 ^ (q - 2) = ((m : ℚ) + 1 / 2) * 2 ^ q := by
  rw [mul_two_zpow_sub_two]
  push_cast
  ring

/-- A decimal that the search finds inside the interval rounds to the double. -/
theorem roundsTo_of_inside (hm : 0 < m)
    (hgap : FloatFormat.binary64.lowerGap m q = if lowerHalf then 1 / 4 else 1 / 2) {c : ℕ}
    {s : ℤ} (h : inside (if lowerHalf then 4 * m - 1 else 4 * m - 2) (4 * m + 2) (q - 2)
      (m % 2 == 0) c s = true) :
    FloatFormat.binary64.RoundsTo m q (c * 10 ^ s) := by
  rw [inside_eq_true, lower_quarters hm hgap, upper_quarters] at h
  simp only [beq_iff_eq] at h
  obtain ⟨h1, h2⟩ := h
  exact ⟨h1.imp_right fun h => ⟨h.1, h.2.symm⟩, h2⟩

/-- What an attempt finds rounds to the double, at the exponent it was given. -/
theorem attempt_eq_some (hm : 0 < m)
    (hgap : FloatFormat.binary64.lowerGap m q = if lowerHalf then 1 / 4 else 1 / 2)
    {tieUp : Bool} {s : ℤ} {c : ℕ} {s' : ℤ} (h : attempt m q lowerHalf tieUp s = some (c, s')) :
    s' = s ∧ FloatFormat.binary64.RoundsTo m q (c * 10 ^ s) := by
  unfold attempt at h
  dsimp only at h
  split at h
  · rename_i hl hh
    split at h
    · obtain ⟨rfl, rfl⟩ := h
      exact ⟨rfl, roundsTo_of_inside hm hgap hl⟩
    · obtain ⟨rfl, rfl⟩ := h
      exact ⟨rfl, by exact_mod_cast roundsTo_of_inside hm hgap hh⟩
  · rename_i hl hh
    obtain ⟨rfl, rfl⟩ := h
    exact ⟨rfl, roundsTo_of_inside hm hgap hl⟩
  · rename_i hl hh
    obtain ⟨rfl, rfl⟩ := h
    exact ⟨rfl, by exact_mod_cast roundsTo_of_inside hm hgap hh⟩
  · cases h

/-- An attempt finds a decimal when one of the two next to the double lies inside. -/
theorem attempt_isSome {tieUp : Bool} (s : ℤ) :
    (attempt m q lowerHalf tieUp s).isSome =
      (inside (if lowerHalf then 4 * m - 1 else 4 * m - 2) (4 * m + 2) (q - 2) (m % 2 == 0)
          (floorDiv (4 * m) (q - 2) s) s ||
        inside (if lowerHalf then 4 * m - 1 else 4 * m - 2) (4 * m + 2) (q - 2) (m % 2 == 0)
          (floorDiv (4 * m) (q - 2) s + 1) s) := by
  unfold attempt
  dsimp only
  split <;> rename_i hl hh
  · -- both lie inside, and the nearer is taken
    split <;> simp [hl, hh]
  all_goals simp [hl, hh]

/-- The multiples of `10^(e-16)`, where `e` is the decimal exponent of the double, are closer
together than its rounding interval is wide. -/
theorem spacing_lt_width (hc : FloatFormat.binary64.Canonical m q) :
    (10 : ℚ) ^ (floorLog10 m q - 16) < (1 / 2 + FloatFormat.binary64.lowerGap m q) * 2 ^ q := by
  have hm : m < 2 ^ 53 := hc.lt
  have hq1 : -1074 ≤ q := Binary64.minQ_eq ▸ hc.minQ_le
  have hq2 : q ≤ 971 := Binary64.maxQ_eq ▸ hc.le_maxQ
  have hten := floorLog10_le hc.pos hm hq1 hq2
  have hsplit : (10 : ℚ) ^ floorLog10 m q = 10 ^ (floorLog10 m q - 16) * 10 ^ 16 := by
    rw [← zpow_natCast, ← zpow_add₀ (by norm_num)]
    congr 1
    push_cast
    ring
  have hpow : (0 : ℚ) < 2 ^ q := zpow_pos two_pos q
  rw [hsplit] at hten
  unfold FloatFormat.lowerGap
  split_ifs with h
  · -- the least significand of a binade: `m = 2^52` and the interval is three quarters wide
    have hm' : (m : ℚ) = 2 ^ 52 := by exact_mod_cast h.1
    rw [hm'] at hten
    nlinarith
  · have hm' : (m : ℚ) ≤ 2 ^ 53 := by exact_mod_cast hm.le
    nlinarith

/-- At seventeen digits the search always finds a decimal: of the two multiples of
`10^(e-16)` next to the double, the lower lies inside unless it is at or below the lower end,
and then the upper lies inside. -/
theorem attempt_sixteen_isSome (hc : FloatFormat.binary64.Canonical m q)
    (hgap : FloatFormat.binary64.lowerGap m q = if lowerHalf then 1 / 4 else 1 / 2)
    (tieUp : Bool) : (attempt m q lowerHalf tieUp (floorLog10 m q - 16)).isSome = true := by
  set s := floorLog10 m q - 16
  set cl := floorDiv (4 * m) (q - 2) s
  set g := FloatFormat.binary64.lowerGap m q
  have hwidth := spacing_lt_width hc
  have hg : 0 < g := FloatFormat.lowerGap_pos m q
  have hpow : (0 : ℚ) < 2 ^ q := zpow_pos two_pos q
  obtain ⟨hlo, hhi⟩ := floorDiv_spec (4 * m) (q - 2) s
  have hx : ((4 * m : ℕ) : ℚ) * 2 ^ (q - 2) = m * 2 ^ q := by
    rw [mul_two_zpow_sub_two]
    push_cast
    ring
  rw [hx] at hlo hhi
  rw [attempt_isSome, Bool.or_eq_true, inside_eq_true, inside_eq_true, lower_quarters hc.pos hgap,
    upper_quarters]
  by_cases hin : ((m : ℚ) - g) * 2 ^ q < cl * 10 ^ s
  · left
    exact ⟨.inl hin, .inl (by nlinarith)⟩
  · right
    push_cast
    exact ⟨.inl (by nlinarith), .inl (by nlinarith)⟩

/-- Removing trailing zeros keeps the value of the decimal. -/
theorem stripZeros_value (c : ℕ) (s : ℤ) :
    ((stripZeros c s).1 : ℚ) * 10 ^ (stripZeros c s).2 = c * 10 ^ s := by
  fun_induction stripZeros c s with
  | case1 c s h ih =>
    rw [ih, zpow_add_one₀ (by norm_num)]
    have hc : ((c / 10 : ℕ) : ℚ) * 10 = c := by exact_mod_cast Nat.div_mul_cancel (Nat.dvd_of_mod_eq_zero h.2)
    rw [← hc]
    ring
  | case2 c s h => rfl

/-- The shortest digits of a positive double round back to it. -/
theorem digits_roundsTo (hc : FloatFormat.binary64.Canonical m q)
    (hgap : FloatFormat.binary64.lowerGap m q = if lowerHalf then 1 / 4 else 1 / 2)
    (tieUp : Bool) :
    FloatFormat.binary64.RoundsTo m q
      ((digits m q lowerHalf tieUp).1 * 10 ^ (digits m q lowerHalf tieUp).2) := by
  -- the search stops at the first number of digits that finds a decimal, sixteen at the latest
  have hsome : ((List.range 17).findSome? fun (i : ℕ) =>
      attempt m q lowerHalf tieUp (floorLog10 m q - i)).isSome = true :=
    List.findSome?_isSome_iff.mpr ⟨16, by simp, attempt_sixteen_isSome hc hgap tieUp⟩
  obtain ⟨⟨c, s⟩, hfind⟩ := Option.isSome_iff_exists.mp hsome
  obtain ⟨i, -, hi⟩ := List.exists_of_findSome?_eq_some hfind
  obtain ⟨rfl, hr⟩ := attempt_eq_some hc.pos hgap hi
  have hd : digits m q lowerHalf tieUp = stripZeros c (floorLog10 m q - i) := by
    unfold digits
    dsimp only
    rw [hfind]
    rfl
  rw [hd, stripZeros_value]
  exact hr

end Shortest

end RecordQuery
