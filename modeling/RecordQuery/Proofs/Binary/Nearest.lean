import RecordQuery.Proofs.Binary.Order

/-!
# The nearest double

Rounding a rational `num / den` in the range of normal numbers gives a number of the format
that it rounds to (`FloatFormat.roundRat_spec`): rounding finds the binade, rounds the scaled
quotient to the nearest integer, a tie going to the even one
(`FloatFormat.nearestEven_roundHalfEven`), and carries a significand that reached `2^p` into
the next binade. A number of the format rounds to itself (`FloatFormat.RoundsTo.eq_of_grid`).

For doubles, the magnitude bits of a number of the format have the bits just above and just
below as neighbours, one unit in the last place away, or half a unit below the least
significand of a binade (`Binary64.bitsValue_encodeFinite_pred`). A rational between the
halfway points to the two neighbours is therefore nearer that number than to any other double
(`Binary64.RoundsTo.abs_sub_le`), since the number a pattern denotes grows with the pattern.

So the double of an integer is the double nearest it (`Binary64.ofInt_nearest`): it equals the
integer up to `2^53` in size (`Binary64.toRat_ofInt_of_natAbs_le`), and beyond it never lies on
the other side of a double than the integer does (`Binary64.toRat_ofInt_le_of_lt`).
-/

namespace RecordQuery

namespace FloatFormat

/-! ### Rounding to the nearest integer -/

/-- The two bounds of rounding to the nearest integer. -/
theorem NearestEven.bounds {m : ℕ} {t : ℚ} (h : NearestEven m t) :
    (m : ℚ) - 1 / 2 ≤ t ∧ t ≤ m + 1 / 2 := by
  obtain ⟨h1 | ⟨-, h1⟩, h2 | ⟨-, h2⟩⟩ := h <;> constructor <;> linarith

/-- `roundHalfEven` rounds to the nearest integer, a tie going to the even one. -/
theorem nearestEven_roundHalfEven (n : ℕ) {d : ℕ} (hd : 0 < d) :
    NearestEven (roundHalfEven n d) (n / d) := by
  have hd' : (0 : ℚ) < d := by exact_mod_cast hd
  -- `n` is `d` times the quotient, plus the remainder
  have hsplit : (n : ℚ) = d * (n / d : ℕ) + (n % d : ℕ) := by
    exact_mod_cast (Nat.div_add_mod n d).symm
  have hmod : ((n % d : ℕ) : ℚ) < d := by exact_mod_cast Nat.mod_lt n hd
  have hmod0 : (0 : ℚ) ≤ (n % d : ℕ) := Nat.cast_nonneg _
  unfold roundHalfEven
  split_ifs with h <;>
    simp only [gt_iff_lt, Bool.or_eq_true, decide_eq_true_eq, Bool.and_eq_true, beq_iff_eq] at h
  · -- more than half, or a half with an odd quotient: one up
    refine ⟨?_, .inl ?_⟩
    · rcases h with h | ⟨h, hodd⟩
      · have : (d : ℚ) < 2 * (n % d : ℕ) := by exact_mod_cast h
        left
        rw [lt_div_iff₀ hd']
        push_cast
        linarith
      · have : (2 * (n % d : ℕ) : ℚ) = d := by exact_mod_cast h
        right
        refine ⟨by omega, ?_⟩
        rw [eq_div_iff hd'.ne']
        push_cast
        linarith
    · rw [div_lt_iff₀ hd']
      push_cast
      linarith
  · -- less than half, or a half with an even quotient: the quotient
    push Not at h
    refine ⟨.inl ?_, ?_⟩
    · rw [lt_div_iff₀ hd']
      linarith
    · rcases h.1.lt_or_eq with hlt | heq
      · have : (2 * (n % d : ℕ) : ℚ) < d := by exact_mod_cast hlt
        left
        rw [div_lt_iff₀ hd']
        linarith
      · have : (2 * (n % d : ℕ) : ℚ) = d := by exact_mod_cast heq
        right
        refine ⟨by have := h.2 heq; omega, ?_⟩
        rw [div_eq_iff hd'.ne']
        linarith

/-! ### Rounding to the format -/

variable {f : FloatFormat}

/-- Rounding the scaled quotient to `m` is rounding to `m · 2^q`, where the gap below is a
half or the rational lies above `m · 2^q`. -/
theorem roundsTo_of_nearestEven {m : ℕ} {q : ℤ} {r : ℚ} (h : NearestEven m (r / 2 ^ q))
    (hgap : f.lowerGap m q = 1 / 2 ∨ (m : ℚ) * 2 ^ q ≤ r) : f.RoundsTo m q r := by
  have hpow : (0 : ℚ) < 2 ^ q := zpow_pos two_pos q
  obtain ⟨h1, h2⟩ := h
  rw [lt_div_iff₀ hpow, eq_div_iff hpow.ne'] at h1
  rw [div_lt_iff₀ hpow, div_eq_iff hpow.ne'] at h2
  refine ⟨?_, h2⟩
  rcases hgap with hgap | hgap
  · rwa [hgap]
  · have := lowerGap_pos (f := f) m q
    left
    nlinarith

/-- Every rational in the range of normal numbers, below the binade where doubles overflow,
rounds to a number of the format in its written form, and `roundRat` gives that number. -/
theorem roundRat_spec (hp : 2 ≤ f.precision) {num den : ℕ} (hden : 0 < den)
    (hlo : (2 : ℚ) ^ (f.minQ + (f.precision - 1 : ℕ)) ≤ num / den)
    (hhi : (num : ℚ) / den < 2 ^ (f.maxQ + (f.precision - 1 : ℕ))) :
    ∃ m q, f.roundRat num den = some (m, q) ∧ f.Canonical m q ∧
      f.RoundsTo m q (num / den) := by
  set r : ℚ := num / den with hr_def
  have hr0 : 0 < r := lt_of_lt_of_le (zpow_pos two_pos _) hlo
  have hnum : 0 < num := Nat.pos_of_ne_zero fun h0 => by simp [hr_def, h0] at hr0
  obtain ⟨hl1, hl2⟩ := floorLog2_spec hnum hden
  set l := floorLog2 num den
  set P := f.precision - 1 with hP
  have hprec : f.precision = P + 1 := by omega
  -- the binade lies between the least normal one and the one where doubles overflow
  have hl_lo : f.minQ + P ≤ l := by
    have := lt_of_zpow_le_of_lt hlo hl2
    omega
  have hl_hi : l < f.maxQ + P := lt_of_zpow_le_of_lt hl1 hhi
  -- so rounding works `P` places below the binade
  set e := l - P with he
  have hexp : f.roundExp num den = e := by
    rw [roundExp_eq (by omega)]
    exact max_eq_left (by omega)
  have hpow : (0 : ℚ) < 2 ^ e := zpow_pos two_pos e
  have ht1 : (2 : ℚ) ^ P * 2 ^ e ≤ r := by
    rw [← two_zpow_nat_add, show (P : ℤ) + e = l by omega]
    exact hl1
  have ht2 : r < 2 ^ (P + 1) * 2 ^ e := by
    rw [← two_zpow_nat_add, show ((P + 1 : ℕ) : ℤ) + e = l + 1 by push_cast; omega]
    exact hl2
  rw [roundRat_eq f den hnum.ne', hexp]
  set M := roundHalfEven (num * 2 ^ (-e).toNat) (den * 2 ^ e.toNat)
  have hnear : NearestEven M (r / 2 ^ e) := by
    rw [← scaled_div]
    exact nearestEven_roundHalfEven _ (by positivity)
  -- the nearest integer to a quotient in `[2^P, 2^(P+1))` is in `[2^P, 2^(P+1)]`
  obtain ⟨hb1, hb2⟩ := hnear.bounds
  rw [le_div_iff₀ hpow] at hb1
  rw [div_le_iff₀ hpow] at hb2
  have hM1 : 2 ^ P ≤ M := by
    have h := le_of_mul_le_mul_right (ht1.trans hb2) hpow
    have : ((2 ^ P : ℕ) : ℚ) < M + 1 := by push_cast; linarith
    exact Nat.lt_succ_iff.mp (by exact_mod_cast this)
  have hM2 : M ≤ 2 ^ (P + 1) := by
    have h := lt_of_mul_lt_mul_right (hb1.trans_lt ht2) hpow.le
    have : (M : ℚ) < ((2 ^ (P + 1) : ℕ) : ℚ) + 1 := by push_cast; linarith
    exact Nat.lt_succ_iff.mp (by exact_mod_cast this)
  by_cases htop : M = 2 ^ f.precision
  · -- the significand reached `2^p`: the least number of the next binade
    have hq : f.minQ < e + 1 := by omega
    refine ⟨2 ^ P, e + 1, ?_, ⟨by positivity, ?_, by omega, by omega, .inl le_rfl⟩, ?_⟩
    · rw [htop, settle_top f (by omega), hP]
    · rw [hprec]
      exact Nat.pow_lt_pow_right one_lt_two (by omega)
    · have hgap : f.lowerGap (2 ^ P) (e + 1) = 1 / 4 := by simp [lowerGap, ← hP, hq]
      have hM : (M : ℚ) = 2 ^ P * 2 := by
        rw [htop, hprec]
        push_cast
        exact pow_succ 2 P
      have heven : 2 ^ P % 2 = 0 :=
        Nat.even_iff.mp (Nat.even_pow.mpr ⟨even_two, by omega⟩)
      unfold RoundsTo
      rw [hgap, zpow_add_one₀ two_ne_zero]
      push_cast
      refine ⟨?_, .inl ?_⟩
      · rcases hnear.1 with h | ⟨-, h⟩
        · left
          rw [lt_div_iff₀ hpow, hM] at h
          linarith
        · right
          refine ⟨heven, ?_⟩
          rw [eq_div_iff hpow.ne', hM] at h
          linarith
      · rw [pow_succ] at ht2
        linarith
  · have hlt : M < 2 ^ f.precision := lt_of_le_of_ne (by rwa [hprec]) htop
    refine ⟨M, e, settle_of_ne f htop (by omega),
      ⟨lt_of_lt_of_le (by positivity) hM1, hlt, by omega, by omega, .inl hM1⟩,
      roundsTo_of_nearestEven hnear ?_⟩
    by_cases hm : M = 2 ^ P
    · right
      rw [hm]
      push_cast
      exact ht1
    · left
      simp [lowerGap, ← hP, hm]

/-- A number of the format rounds to itself: a rational that is `k · 2^j` with a significand
`k` below `2^p` and an exponent not below the least rounds to `m · 2^q` only if it is that
number. -/
theorem RoundsTo.eq_of_grid {m : ℕ} {q : ℤ} {r : ℚ} (hc : f.Canonical m q)
    (hr : f.RoundsTo m q r) (k : ℕ) (j : ℤ) (hk : k < 2 ^ f.precision) (hj : f.minQ ≤ j)
    (h : r = k * 2 ^ j) : (m : ℚ) * 2 ^ q = r := by
  have hpow : (0 : ℚ) < 2 ^ q := zpow_pos two_pos q
  have hgap := lowerGap_le (f := f) m q
  have hlower := hr.lower_le
  have hupper := hr.le_upper
  by_cases hjq : q ≤ j
  · -- `r` lies on the grid of `2^q`, within a half of `m`
    set K := k * 2 ^ (j - q).toNat
    have hK : r = K * 2 ^ q := by
      rw [h, Nat.cast_mul, Nat.cast_pow, Nat.cast_ofNat, mul_assoc, ← zpow_natCast,
        ← zpow_add₀ two_ne_zero, Int.toNat_of_nonneg (by omega), sub_add_cancel]
    rw [hK] at hlower hupper ⊢
    have h1 : (m : ℚ) < K + 1 := by nlinarith
    have h2 : (K : ℚ) < m + 1 := by nlinarith
    have : m = K := by
      have := (by exact_mod_cast h1 : m < K + 1)
      have := (by exact_mod_cast h2 : K < m + 1)
      omega
    rw [this]
  · -- `r` lies below the grid of `2^q`, which the format uses only from the least normal
    -- binade on, so its significand would reach `2^p`
    exfalso
    have hq : f.minQ < q := by omega
    have hpj : (0 : ℚ) < 2 ^ j := zpow_pos two_pos j
    have hp1 : 1 ≤ f.precision := by
      by_contra hp0
      have := hc.lt
      rw [show f.precision = 0 by omega] at this
      exact absurd hc.pos (by omega)
    have hnorm : 2 ^ (f.precision - 1) ≤ m := hc.normal.resolve_right (by omega)
    -- below the least significand of a binade the gap is a quarter, elsewhere a half
    have hmg : (2 : ℚ) ^ (f.precision - 1) - 1 / 4 ≤ m - f.lowerGap m q := by
      unfold lowerGap
      split_ifs with hm
      · rw [hm.1]
        push_cast
        exact le_rfl
      · have : 2 ^ (f.precision - 1) + 1 ≤ m := by
          have : m ≠ 2 ^ (f.precision - 1) := fun h' => hm ⟨h', hq⟩
          omega
        have : (2 : ℚ) ^ (f.precision - 1) + 1 ≤ m := by exact_mod_cast this
        linarith
    have hA : (0 : ℚ) ≤ 2 ^ (f.precision - 1) - 1 / 4 := by
      have : (1 : ℚ) ≤ 2 ^ (f.precision - 1) := one_le_pow₀ one_le_two
      linarith
    have hqj : (2 : ℚ) ^ j * 2 ≤ 2 ^ q := by
      rw [← zpow_add_one₀ two_ne_zero]
      exact zpow_le_zpow_right₀ one_le_two (by omega)
    have hp2 : (2 : ℚ) ^ f.precision = 2 ^ (f.precision - 1) * 2 := by
      rw [← pow_succ]
      congr 1
      omega
    have hchain : (2 ^ f.precision - 1 / 2) * 2 ^ j ≤ (k : ℚ) * 2 ^ j :=
      calc (2 ^ f.precision - 1 / 2) * 2 ^ j
          = (2 ^ (f.precision - 1) - 1 / 4) * (2 ^ j * 2) := by rw [hp2]; ring
        _ ≤ (2 ^ (f.precision - 1) - 1 / 4) * 2 ^ q := mul_le_mul_of_nonneg_left hqj hA
        _ ≤ (m - f.lowerGap m q) * 2 ^ q := mul_le_mul_of_nonneg_right hmg hpow.le
        _ ≤ r := hlower
        _ = k * 2 ^ j := h
    have hk' : (k : ℚ) + 1 ≤ 2 ^ f.precision := by exact_mod_cast hk
    have := le_of_mul_le_mul_right hchain hpj
    linarith

end FloatFormat

namespace Binary64

open FloatFormat

/-! ### The magnitude bits of a number of the format -/

variable {m : ℕ} {q : ℤ}

/-- A number of binary64 in its written form: a positive significand below `2^53`, an exponent
from `-1074` to `971`, and a full significand unless the exponent is the least. -/
theorem canonical_bounds (hc : binary64.Canonical m q) :
    0 < m ∧ m < 2 ^ 53 ∧ -1074 ≤ q ∧ q ≤ 971 ∧ (2 ^ 52 ≤ m ∨ q = -1074) := by
  obtain ⟨h1, h2, h3, h4, h5⟩ := hc
  rw [minQ_eq] at h3 h5
  rw [maxQ_eq] at h4
  exact ⟨h1, h2, h3, h4, h5⟩

/-- The magnitude bits of `m · 2^q`: the significand of a subnormal, else the exponent field
`q + 1075` above the fraction. -/
theorem encodeFinite_false (m : ℕ) (q : ℤ) : binary64.encodeFinite false m q =
    if m < 2 ^ 52 then m else (q + 1075).toNat * 2 ^ 52 + (m - 2 ^ 52) := by
  rw [encodeFinite_binary64]
  simp

/-- The bits of a double are its sign bit above its magnitude bits. -/
theorem encodeFinite_eq_add (neg : Bool) (m : ℕ) (q : ℤ) : binary64.encodeFinite neg m q =
    (if neg then 2 ^ 63 else 0) + binary64.encodeFinite false m q := by
  rw [encodeFinite_binary64, encodeFinite_binary64]
  simp

/-- The fields of the magnitude bits of a normal number: the exponent field `q + 1075`, from
`1` to `2046`, and the fraction. -/
theorem encodeFinite_normal (hc : binary64.Canonical m q) (hm : 2 ^ 52 ≤ m) :
    binary64.encodeFinite false m q / 2 ^ 52 = (q + 1075).toNat ∧
      binary64.encodeFinite false m q % 2 ^ 52 = m - 2 ^ 52 ∧
      ((q + 1075).toNat : ℤ) = q + 1075 ∧ 1 ≤ (q + 1075).toNat ∧
      (q + 1075).toNat ≤ 2046 := by
  obtain ⟨-, h53, hq1, hq2, -⟩ := canonical_bounds hc
  rw [encodeFinite_false, if_neg (by omega)]
  omega

theorem encodeFinite_lt (hc : binary64.Canonical m q) :
    binary64.encodeFinite false m q < 2047 * 2 ^ 52 := by
  obtain ⟨-, h53, -, -, -⟩ := canonical_bounds hc
  by_cases hm : m < 2 ^ 52
  · rw [encodeFinite_false, if_pos hm]
    omega
  · have := (encodeFinite_normal hc (by omega)).2.2.2.2
    rw [encodeFinite_false, if_neg hm]
    omega

/-- The number that the magnitude bits of `m · 2^q` denote is `m · 2^q`. -/
theorem bitsValue_encodeFinite (hc : binary64.Canonical m q) :
    bitsValue (binary64.encodeFinite false m q) = m * 2 ^ q := by
  obtain ⟨-, -, -, -, hn⟩ := canonical_bounds hc
  unfold bitsValue
  by_cases hm : m < 2 ^ 52
  · -- a subnormal has the least exponent
    have hq : q = -1074 := hn.resolve_left (by omega)
    rw [encodeFinite_false, if_pos hm, if_pos hm, hq]
  · obtain ⟨hdiv, hmod, hE, hE1, -⟩ := encodeFinite_normal hc (by omega)
    rw [if_neg (by omega), hdiv, hmod, Nat.sub_add_cancel (by omega), hE, add_sub_cancel_right]

/-- The last place of `m · 2^q` is `2^q`. -/
theorem ulpExp_encodeFinite (hc : binary64.Canonical m q) :
    ulpExp (binary64.encodeFinite false m q) = q := by
  obtain ⟨-, -, -, -, hn⟩ := canonical_bounds hc
  unfold ulpExp
  by_cases hm : m < 2 ^ 52
  · rw [encodeFinite_false, if_pos hm, if_pos hm]
    exact (hn.resolve_left (by omega)).symm
  · obtain ⟨hdiv, -, hE, hE1, -⟩ := encodeFinite_normal hc (by omega)
    rw [if_neg (by omega), hdiv, hE, add_sub_cancel_right]

/-- The next pattern up denotes `(m + 1) · 2^q`. -/
theorem bitsValue_encodeFinite_succ (hc : binary64.Canonical m q) :
    bitsValue (binary64.encodeFinite false m q + 1) = (m + 1) * 2 ^ q := by
  rw [bitsValue_succ, bitsValue_encodeFinite hc, ulpExp_encodeFinite hc]
  ring

/-- The next pattern down denotes `(m - 1) · 2^q`, or `(m - 1/2) · 2^q` below the least
significand of a binade above the least exponent, where the numbers lie twice as close. -/
theorem bitsValue_encodeFinite_pred (hc : binary64.Canonical m q) :
    bitsValue (binary64.encodeFinite false m q - 1) = (m - 2 * binary64.lowerGap m q) * 2 ^ q := by
  obtain ⟨h0, -, -, -, hn⟩ := canonical_bounds hc
  set b := binary64.encodeFinite false m q with hb
  have hb1 : 1 ≤ b := by
    by_cases hm : m < 2 ^ 52
    · rw [hb, encodeFinite_false, if_pos hm]
      omega
    · have := (encodeFinite_normal hc (by omega)).2.2.2.1
      rw [hb, encodeFinite_false, if_neg hm]
      omega
  have hsucc := bitsValue_succ (b - 1)
  rw [Nat.sub_add_cancel hb1, bitsValue_encodeFinite hc] at hsucc
  -- the last place of the pattern below is `2^q`, or `2^(q-1)` across a binade's start
  have hgap : (2 : ℚ) ^ ulpExp (b - 1) = 2 * binary64.lowerGap m q * 2 ^ q := by
    unfold lowerGap ulpExp
    rw [minQ_eq, show binary64.precision - 1 = 52 from rfl]
    by_cases hm : m < 2 ^ 52
    · have hq : q = -1074 := hn.resolve_left (by omega)
      rw [hb, encodeFinite_false, if_pos hm, if_pos (by omega), if_neg (by omega), hq]
      norm_num
    · obtain ⟨hdiv, hmod, hE, hE1, -⟩ := encodeFinite_normal hc (by omega)
      by_cases hlow : m = 2 ^ 52 ∧ -1074 < q
      · -- the first pattern of a binade above the least: one binade down
        have hdiv' : (b - 1) / 2 ^ 52 = (q + 1075).toNat - 1 := by omega
        rw [if_neg (by omega), if_pos hlow, hdiv', Nat.cast_sub (by omega), hE,
          show q + 1075 - ((1 : ℕ) : ℤ) - 1075 = q - 1 by push_cast; ring,
          zpow_sub_one₀ two_ne_zero]
        ring
      · rw [if_neg hlow]
        by_cases hsub : b - 1 < 2 ^ 52
        · -- the least normal number, just above the subnormals
          have hq : q = -1074 := by omega
          rw [if_pos hsub, hq]
          norm_num
        · have hdiv' : (b - 1) / 2 ^ 52 = (q + 1075).toNat := by
            have : m ≠ 2 ^ 52 := fun h => hlow ⟨h, by omega⟩
            omega
          rw [if_neg hsub, hdiv', hE, add_sub_cancel_right]
          norm_num
  rw [hgap] at hsucc
  linarith

/-! ### The nearest double -/

/-- Magnitude bits `b` denote the number nearest `r` among all magnitudes when `r` lies between
the halfway points to the patterns just below and just above. -/
theorem abs_bitsValue_sub_le {b : ℕ} {r : ℚ}
    (hlo : 0 < b → bitsValue (b - 1) + bitsValue b ≤ 2 * r)
    (hhi : 2 * r ≤ bitsValue b + bitsValue (b + 1)) (c : ℕ) :
    |bitsValue b - r| ≤ |bitsValue c - r| := by
  rcases lt_trichotomy c b with hcb | rfl | hbc
  · -- a pattern below denotes at most what the pattern just below does
    have h1 : bitsValue c ≤ bitsValue (b - 1) := bitsValue_strictMono.monotone (by omega)
    have h2 : bitsValue (b - 1) < bitsValue b := bitsValue_strictMono (by omega)
    have h3 := hlo (by omega)
    calc |bitsValue b - r| ≤ r - bitsValue c := abs_le.mpr ⟨by linarith, by linarith⟩
      _ ≤ |bitsValue c - r| := by
        rw [abs_sub_comm]
        exact le_abs_self _
  · exact le_rfl
  · -- a pattern above denotes at least what the pattern just above does
    have h1 : bitsValue (b + 1) ≤ bitsValue c := bitsValue_strictMono.monotone (by omega)
    have h2 := bitsValue_lt_succ b
    calc |bitsValue b - r| ≤ bitsValue c - r := abs_le.mpr ⟨by linarith, by linarith⟩
      _ ≤ |bitsValue c - r| := le_abs_self _

/-- A rational that rounds to `m · 2^q` is nearer to it than to the number of any magnitude
bits. -/
theorem RoundsTo.abs_sub_le (hc : binary64.Canonical m q) {r : ℚ} (hr : binary64.RoundsTo m q r)
    (c : ℕ) : |(m : ℚ) * 2 ^ q - r| ≤ |bitsValue c - r| := by
  have hlower := hr.lower_le
  have hupper := hr.le_upper
  rw [← bitsValue_encodeFinite hc]
  refine abs_bitsValue_sub_le (fun _ => ?_) ?_ c
  · rw [bitsValue_encodeFinite_pred hc, bitsValue_encodeFinite hc]
    linarith
  · rw [bitsValue_encodeFinite_succ hc, bitsValue_encodeFinite hc]
    linarith

/-- The size of a finite double is what its magnitude bits denote. -/
theorem abs_toRat {y : Binary64} (hy : y.isFinite = true) : |y.toRat| = bitsValue y.magBits := by
  rw [toRat_eq hy]
  split
  · rw [abs_neg, abs_of_nonneg (bitsValue_nonneg _)]
  · exact abs_of_nonneg (bitsValue_nonneg _)

/-! ### The double of an integer -/

variable {n : ℤ}

theorem toNat_ofBitsNat {N : ℕ} (h : N < 2 ^ 64) : (ofBitsNat N).bits.toNat = N := by
  unfold ofBitsNat
  rw [UInt64.toNat_ofNat']
  exact Nat.mod_eq_of_lt h

/-- The sign bit and the magnitude bits of a pattern put together from them. -/
theorem signBit_magBits_ofBitsNat (neg : Bool) {b : ℕ} (hb : b < 2 ^ 63) :
    (ofBitsNat ((if neg then 2 ^ 63 else 0) + b)).signBit = neg ∧
      (ofBitsNat ((if neg then 2 ^ 63 else 0) + b)).magBits = b := by
  unfold signBit magBits
  rw [toNat_ofBitsNat (by split <;> omega)]
  cases neg <;> simp only [Bool.false_eq_true, if_true, if_false, Nat.pow_eq] <;>
    constructor <;> simp <;> omega

/-- The double of a non-zero integer below `2^1023` in size: the integer's sign above the
magnitude bits of the number of the format that the integer's size rounds to. -/
theorem ofInt_spec (h0 : n ≠ 0) (hn : n.natAbs < 2 ^ 1023) :
    ∃ m q, binary64.Canonical m q ∧ binary64.RoundsTo m q n.natAbs ∧
      (ofInt n).signBit = decide (n < 0) ∧
      (ofInt n).magBits = binary64.encodeFinite false m q := by
  have hsize : (1 : ℚ) ≤ n.natAbs := by exact_mod_cast Int.natAbs_pos.mpr h0
  -- the size lies among the normal numbers, far below the overflow
  have hlo : (2 : ℚ) ^ (binary64.minQ + (binary64.precision - 1 : ℕ)) ≤
      (n.natAbs : ℕ) / (1 : ℕ) := by
    rw [Nat.cast_one, div_one]
    refine le_trans (zpow_le_one_of_nonpos₀ one_le_two ?_) hsize
    rw [minQ_eq]
    decide
  have hhi : ((n.natAbs : ℕ) : ℚ) / (1 : ℕ) <
      2 ^ (binary64.maxQ + (binary64.precision - 1 : ℕ)) := by
    rw [Nat.cast_one, div_one, maxQ_eq,
      show (971 : ℤ) + (binary64.precision - 1 : ℕ) = (1023 : ℕ) from rfl, zpow_natCast]
    exact_mod_cast hn
  obtain ⟨m, q, hround, hc, hr⟩ := FloatFormat.roundRat_spec (by decide) one_pos hlo hhi
  have hofInt : ofInt n =
      ofBitsNat ((if decide (n < 0) then 2 ^ 63 else 0) + binary64.encodeFinite false m q) := by
    rw [← encodeFinite_eq_add]
    unfold ofInt ofRat FloatFormat.encodeRat
    rw [hround]
  have hb := encodeFinite_lt hc
  rw [Nat.cast_one, div_one] at hr
  refine ⟨m, q, hc, hr, ?_⟩
  rw [hofInt]
  exact signBit_magBits_ofBitsNat _ (by omega)

theorem ofInt_zero : ofInt 0 = zero := by decide +kernel

theorem isFinite_ofInt (hn : n.natAbs < 2 ^ 1023) : (ofInt n).isFinite = true := by
  rcases eq_or_ne n 0 with rfl | h0
  · rw [ofInt_zero]
    decide
  obtain ⟨m, q, hc, -, -, hmag⟩ := ofInt_spec h0 hn
  rw [isFinite_iff, hmag]
  exact encodeFinite_lt hc

/-- The distance of the double of an integer from the integer is that of the number of the
format that the size rounds to from the size. -/
theorem abs_toRat_ofInt_sub (h0 : n ≠ 0) (hn : n.natAbs < 2 ^ 1023) :
    ∃ m q, binary64.Canonical m q ∧ binary64.RoundsTo m q n.natAbs ∧
      |(ofInt n).toRat - n| = |(m : ℚ) * 2 ^ q - n.natAbs| := by
  obtain ⟨m, q, hc, hr, hsign, hmag⟩ := ofInt_spec h0 hn
  refine ⟨m, q, hc, hr, ?_⟩
  rw [toRat_eq (isFinite_ofInt hn), hsign, hmag, bitsValue_encodeFinite hc]
  rcases lt_or_gt_of_ne h0 with hneg | hpos
  · -- a negative integer and its double, both below zero
    have : (n.natAbs : ℚ) = -n := by
      rw [Nat.cast_natAbs, Int.cast_abs, abs_of_neg (by exact_mod_cast hneg)]
    rw [if_pos (decide_eq_true hneg), this, ← abs_neg]
    congr 1
    ring
  · have : (n.natAbs : ℚ) = n := by
      rw [Nat.cast_natAbs, Int.cast_abs, abs_of_pos (by exact_mod_cast hpos)]
    rw [if_neg (by simp [not_lt.mpr hpos.le]), this]

theorem toRat_ofInt_zero : (ofInt 0).toRat = 0 := by
  rw [ofInt_zero]
  decide +kernel

/-- The double of an integer below `2^1023` in size is the double nearest the integer. -/
theorem ofInt_nearest (hn : n.natAbs < 2 ^ 1023) {y : Binary64} (hy : y.isFinite = true) :
    |(ofInt n).toRat - n| ≤ |y.toRat - n| := by
  rcases eq_or_ne n 0 with rfl | h0
  · rw [toRat_ofInt_zero, Int.cast_zero, sub_zero, abs_zero]
    exact abs_nonneg _
  obtain ⟨m, q, hc, hr, heq⟩ := abs_toRat_ofInt_sub h0 hn
  calc |(ofInt n).toRat - n| = |(m : ℚ) * 2 ^ q - n.natAbs| := heq
    _ ≤ |bitsValue y.magBits - n.natAbs| := RoundsTo.abs_sub_le hc hr _
    _ = |(|y.toRat| - |(n : ℚ)|)| := by rw [abs_toRat hy, Nat.cast_natAbs, Int.cast_abs]
    _ ≤ |y.toRat - n| := abs_abs_sub_abs_le_abs_sub _ _

/-- The double of an integer does not pass a double that lies above the integer. -/
theorem toRat_ofInt_le_of_lt (hn : n.natAbs < 2 ^ 1023) {y : Binary64} (hy : y.isFinite = true)
    (h : (n : ℚ) < y.toRat) : (ofInt n).toRat ≤ y.toRat := by
  by_contra hlt
  push Not at hlt
  have hnear := ofInt_nearest hn hy
  rw [abs_of_pos (by linarith), abs_of_pos (by linarith)] at hnear
  linarith

/-- The double of an integer does not pass a double that lies below the integer. -/
theorem le_toRat_ofInt_of_lt (hn : n.natAbs < 2 ^ 1023) {y : Binary64} (hy : y.isFinite = true)
    (h : y.toRat < n) : y.toRat ≤ (ofInt n).toRat := by
  by_contra hlt
  push Not at hlt
  have hnear := ofInt_nearest hn hy
  rw [abs_of_neg (by linarith), abs_of_neg (by linarith)] at hnear
  linarith

/-- Every integer up to `2^53` in size is a double: its double denotes it exactly. -/
theorem toRat_ofInt_of_natAbs_le (h : n.natAbs ≤ 2 ^ 53) : (ofInt n).toRat = n := by
  rcases eq_or_ne n 0 with rfl | h0
  · rw [toRat_ofInt_zero, Int.cast_zero]
  obtain ⟨m, q, hc, hr, heq⟩ := abs_toRat_ofInt_sub h0 (by omega)
  -- the size is a number of the format: `n.natAbs · 2^0`, or `1 · 2^53`
  have hexact : (m : ℚ) * 2 ^ q = n.natAbs := by
    rcases h.lt_or_eq with hlt | htop
    · exact hr.eq_of_grid hc n.natAbs 0 hlt (by rw [minQ_eq]; decide) (by simp)
    · exact hr.eq_of_grid hc 1 53 (by decide) (by rw [minQ_eq]; decide) (by rw [htop]; norm_num)
  rw [hexact, sub_self, abs_zero] at heq
  exact sub_eq_zero.mp (abs_eq_zero.mp heq)

end Binary64

end RecordQuery
