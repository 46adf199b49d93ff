import Mathlib
import RecordQuery.Binary.Binary64

/-!
# Rounding to a binary format

`FloatFormat.roundRat` rounds `num / den` to the nearest `m · 2^q` of a format. Every
positive number of the format is the rounding of exactly the rationals that lie between the
halfway points to its two neighbours, an end included when `m` is even, since a tie goes to
the even significand (`FloatFormat.RoundsTo`). The main result here is that `roundRat` gives
that number for every such rational (`FloatFormat.roundRat_eq_some`).

Rounding first finds the binade of `num / den` from the bit lengths of `num` and `den`,
corrected by one exact comparison (`FloatFormat.floorLog2_spec`), then rounds the scaled
quotient to the nearest integer (`FloatFormat.roundHalfEven_eq`). The one delicate case is
the least number of a binade: the rationals just below it lie in the binade below, are
rounded there to the top significand `2^p`, and come back as the least number of the binade
above.

Last, a finite double is the bit pattern that encoding its significand and exponent gives
(`Binary64.ofBitsNat_encodeFinite`).
-/

namespace RecordQuery

namespace FloatFormat

/-! ### Powers of two and the binade -/

/-- A power of two with an integer exponent is a quotient of natural powers of two, the way
rounding scales numerator and denominator. -/
theorem two_zpow_eq (q : ℤ) :
    (2 : ℚ) ^ q = ((2 ^ q.toNat : ℕ) : ℚ) / ((2 ^ (-q).toNat : ℕ) : ℚ) := by
  obtain ⟨k, rfl | rfl⟩ := Int.eq_nat_or_neg q
  · simp
  · simp [zpow_neg]

/-- Scaling numerator and denominator by natural powers of two divides by `2^q`. -/
theorem scaled_div (num den : ℕ) (q : ℤ) :
    ((num * 2 ^ (-q).toNat : ℕ) : ℚ) / ((den * 2 ^ q.toNat : ℕ) : ℚ) = (num / den) / 2 ^ q := by
  rw [two_zpow_eq]
  push_cast
  field_simp

theorem atLeastPow2_iff {num den : ℕ} (hden : 0 < den) (l : ℤ) :
    atLeastPow2 num den l = true ↔ (2 : ℚ) ^ l ≤ num / den := by
  have hpow : (0 : ℚ) < ((2 ^ (-l).toNat : ℕ) : ℚ) := by positivity
  have hden' : (0 : ℚ) < den := by exact_mod_cast hden
  rw [two_zpow_eq, div_le_div_iff₀ hpow hden']
  simp only [atLeastPow2, Nat.pow_eq, ge_iff_le, decide_eq_true_eq]
  rw [← Nat.cast_mul, ← Nat.cast_mul, Nat.cast_le, Nat.mul_comm den]

/-- `floorLog2 num den` is the binade of `num / den`. -/
theorem floorLog2_spec {num den : ℕ} (hnum : 0 < num) (hden : 0 < den) :
    (2 : ℚ) ^ floorLog2 num den ≤ num / den ∧ (num : ℚ) / den < 2 ^ (floorLog2 num den + 1) := by
  have hden' : (0 : ℚ) < den := by exact_mod_cast hden
  have hnum' : (0 : ℚ) < num := by exact_mod_cast hnum
  -- the bit lengths bound numerator and denominator
  have ha1 : ((2 ^ num.log2 : ℕ) : ℚ) ≤ num := by exact_mod_cast Nat.log2_self_le hnum.ne'
  have ha2 : (num : ℚ) < ((2 ^ (num.log2 + 1) : ℕ) : ℚ) := by exact_mod_cast Nat.lt_log2_self
  have hb1 : ((2 ^ den.log2 : ℕ) : ℚ) ≤ den := by exact_mod_cast Nat.log2_self_le hden.ne'
  have hb2 : (den : ℚ) < ((2 ^ (den.log2 + 1) : ℕ) : ℚ) := by exact_mod_cast Nat.lt_log2_self
  push_cast at ha1 ha2 hb1 hb2
  set a := num.log2
  set b := den.log2
  -- so the quotient lies strictly between the powers next to the difference of the lengths
  have hlow : (2 : ℚ) ^ ((a : ℤ) - b - 1) ≤ num / den := by
    rw [zpow_sub₀ two_ne_zero, zpow_sub₀ two_ne_zero, zpow_natCast, zpow_natCast, zpow_one,
      div_div, div_le_div_iff₀ (by positivity) hden']
    have : (2 : ℚ) ^ b * 2 = 2 ^ (b + 1) := by rw [pow_succ]
    rw [this]
    nlinarith
  have hhigh : (num : ℚ) / den < 2 ^ ((a : ℤ) - b + 1) := by
    rw [zpow_add₀ two_ne_zero, zpow_sub₀ two_ne_zero, zpow_natCast, zpow_natCast, zpow_one,
      div_mul_eq_mul_div, div_lt_div_iff₀ hden' (by positivity)]
    have : (2 : ℚ) ^ a * 2 = 2 ^ (a + 1) := by rw [pow_succ]
    rw [this]
    nlinarith
  unfold floorLog2
  dsimp only
  split
  · rename_i h
    exact ⟨(atLeastPow2_iff hden _).mp h, hhigh⟩
  · rename_i h
    rw [atLeastPow2_iff hden] at h
    refine ⟨hlow, ?_⟩
    rw [sub_add_cancel]
    exact lt_of_not_ge h

/-! ### Rounding to the nearest integer -/

/-- The integer nearest to `n / d`, a tie going to the even one, as `roundRat` computes it. -/
def roundHalfEven (n d : ℕ) : ℕ :=
  if 2 * (n % d) > d || (2 * (n % d) == d && n / d % 2 == 1) then n / d + 1 else n / d

/-- `t` rounds to `m` among the integers: it is within a half of `m`, and at exactly a half
only when `m` is even. -/
def NearestEven (m : ℕ) (t : ℚ) : Prop :=
  ((m : ℚ) - 1 / 2 < t ∨ (m % 2 = 0 ∧ (m : ℚ) - 1 / 2 = t)) ∧
    (t < m + 1 / 2 ∨ (m % 2 = 0 ∧ t = m + 1 / 2))

theorem roundHalfEven_eq {n d m : ℕ} (hd : 0 < d) (h : NearestEven m (n / d)) :
    roundHalfEven n d = m := by
  have hd' : (0 : ℚ) < d := by exact_mod_cast hd
  -- the two halves of `NearestEven`, multiplied out
  have hlo : 2 * m * d < 2 * n + d ∨ (m % 2 = 0 ∧ 2 * m * d = 2 * n + d) := by
    rcases h.1 with h1 | ⟨he, h1⟩
    · left
      rw [lt_div_iff₀ hd'] at h1
      exact_mod_cast (by linarith : (2 * m * d : ℚ) < 2 * n + d)
    · right
      rw [eq_div_iff hd'.ne'] at h1
      exact ⟨he, by exact_mod_cast (by linarith : (2 * m * d : ℚ) = 2 * n + d)⟩
  have hhi : 2 * n < 2 * m * d + d ∨ (m % 2 = 0 ∧ 2 * n = 2 * m * d + d) := by
    rcases h.2 with h2 | ⟨he, h2⟩
    · left
      rw [div_lt_iff₀ hd'] at h2
      exact_mod_cast (by linarith : (2 * n : ℚ) < 2 * m * d + d)
    · right
      rw [div_eq_iff hd'.ne'] at h2
      exact ⟨he, by exact_mod_cast (by linarith : (2 * n : ℚ) = 2 * m * d + d)⟩
  have hdiv := Nat.div_add_mod n d
  have hmod := Nat.mod_lt n hd
  unfold roundHalfEven
  set k := n / d
  set r := n % d
  -- the quotient is `m` or one below
  have hk_le : k ≤ m := by
    by_contra hk
    have : d * (m + 1) ≤ d * k := Nat.mul_le_mul_left d (by omega)
    rcases hhi with hhi | ⟨-, hhi⟩ <;> nlinarith
  have hk_ge : m ≤ k + 1 := by
    by_contra hk
    have : d * (k + 2) ≤ d * m := Nat.mul_le_mul_left d (by omega)
    rcases hlo with hlo | ⟨-, hlo⟩ <;> nlinarith
  rcases Nat.eq_or_lt_of_le hk_le with hkm | hkm
  · -- the quotient is `m`: the remainder is at most half, and a half only when `m` is even
    subst hkm
    have hr : 2 * r ≤ d := by rcases hhi with hhi | ⟨-, hhi⟩ <;> nlinarith
    rcases Nat.eq_or_lt_of_le hr with hr | hr
    · have heven : k % 2 = 0 := by
        rcases hhi with hhi | ⟨he, -⟩
        · nlinarith
        · exact he
      simp [hr, heven]
    · have : ¬ d < 2 * r := by omega
      simp [this, hr.ne]
  · -- the quotient is one below `m`: the remainder is at least half, and a half only when
    -- `m` is even, which makes the quotient odd
    have hkm' : k + 1 = m := by omega
    subst hkm'
    have hr : d ≤ 2 * r := by rcases hlo with hlo | ⟨-, hlo⟩ <;> nlinarith
    rcases Nat.eq_or_lt_of_le hr with hr | hr
    · have hodd : k % 2 = 1 := by
        rcases hlo with hlo | ⟨he, -⟩
        · nlinarith
        · omega
      simp [← hr, hodd]
    · simp [hr]

/-! ### Rounding to the format -/

variable (f : FloatFormat)

/-- The exponent that rounding `num / den` works at: `p - 1` below the binade, but not below
the least exponent. -/
def roundExp (num den : ℕ) : ℤ := max (floorLog2 num den - ((f.precision : ℤ) - 1)) f.minQ

/-- The last step of rounding: a significand that reached `2^p` moves to the next binade, and
an exponent beyond the greatest overflows. -/
def settle (m : ℕ) (q : ℤ) : Option (ℕ × ℤ) :=
  let (m, q) := if m == Nat.pow 2 f.precision then (Nat.pow 2 (f.precision - 1), q + 1) else (m, q)
  if q > f.maxQ then none else some (m, q)

theorem roundRat_eq {num : ℕ} (den : ℕ) (hnum : num ≠ 0) :
    f.roundRat num den = f.settle
      (roundHalfEven (num * 2 ^ (-(f.roundExp num den)).toNat) (den * 2 ^ (f.roundExp num den).toNat))
      (f.roundExp num den) := by
  rw [roundRat, if_neg hnum]
  rfl

theorem settle_of_ne {m : ℕ} {q : ℤ} (hm : m ≠ 2 ^ f.precision) (hq : q ≤ f.maxQ) :
    f.settle m q = some (m, q) := by
  simp [settle, Nat.pow_eq, hm, not_lt.mpr hq]

theorem settle_top {q : ℤ} (hq : q + 1 ≤ f.maxQ) :
    f.settle (2 ^ f.precision) q = some (2 ^ (f.precision - 1), q + 1) := by
  simp [settle, Nat.pow_eq, not_lt.mpr hq]

/-- `m · 2^q` is a positive number of the format in its one written form: a significand
below `2^p`, an exponent in range, and a significand of full length unless the exponent is
the least. -/
structure Canonical (m : ℕ) (q : ℤ) : Prop where
  pos : 0 < m
  lt : m < 2 ^ f.precision
  minQ_le : f.minQ ≤ q
  le_maxQ : q ≤ f.maxQ
  normal : 2 ^ (f.precision - 1) ≤ m ∨ q = f.minQ

/-- The distance, in units of `2^q`, from `m · 2^q` down to the halfway point to the next
lower number: a quarter at the least significand of a binade above the least exponent,
where the numbers below lie twice as close, and a half elsewhere. -/
def lowerGap (m : ℕ) (q : ℤ) : ℚ := if m = 2 ^ (f.precision - 1) ∧ f.minQ < q then 1 / 4 else 1 / 2

/-- `r` rounds to `m · 2^q`: it lies between the halfway points to the two neighbours, an end
included only when `m` is even. -/
def RoundsTo (m : ℕ) (q : ℤ) (r : ℚ) : Prop :=
  (((m : ℚ) - f.lowerGap m q) * 2 ^ q < r ∨ (m % 2 = 0 ∧ ((m : ℚ) - f.lowerGap m q) * 2 ^ q = r)) ∧
    (r < ((m : ℚ) + 1 / 2) * 2 ^ q ∨ (m % 2 = 0 ∧ r = ((m : ℚ) + 1 / 2) * 2 ^ q))

variable {f}

theorem RoundsTo.lower_le {m : ℕ} {q : ℤ} {r : ℚ} (h : f.RoundsTo m q r) :
    ((m : ℚ) - f.lowerGap m q) * 2 ^ q ≤ r := by
  rcases h.1 with h | ⟨-, h⟩
  · exact h.le
  · exact h.le

theorem RoundsTo.le_upper {m : ℕ} {q : ℤ} {r : ℚ} (h : f.RoundsTo m q r) :
    r ≤ ((m : ℚ) + 1 / 2) * 2 ^ q := by
  rcases h.2 with h | ⟨-, h⟩
  · exact h.le
  · exact h.le

theorem lowerGap_le (m : ℕ) (q : ℤ) : f.lowerGap m q ≤ 1 / 2 := by
  unfold lowerGap
  split <;> norm_num

theorem lowerGap_pos (m : ℕ) (q : ℤ) : 0 < f.lowerGap m q := by
  unfold lowerGap
  split <;> norm_num

theorem RoundsTo.pos {m : ℕ} {q : ℤ} {r : ℚ} (hm : 0 < m) (h : f.RoundsTo m q r) : 0 < r := by
  have hm' : (1 : ℚ) ≤ m := by exact_mod_cast hm
  have hgap := lowerGap_le (f := f) m q
  have hpow : (0 : ℚ) < 2 ^ q := zpow_pos two_pos q
  have := h.lower_le
  nlinarith

/-- Rounding at the exponent `q` itself: the scaled quotient is within a half of `m`. -/
theorem RoundsTo.nearestEven {m : ℕ} {q : ℤ} {r : ℚ} (h : f.RoundsTo m q r)
    (hgap : f.lowerGap m q = 1 / 2 ∨ (m : ℚ) * 2 ^ q ≤ r) : NearestEven m (r / 2 ^ q) := by
  have hpow : (0 : ℚ) < 2 ^ q := zpow_pos two_pos q
  have hgap' := lowerGap_le (f := f) m q
  constructor
  · rw [lt_div_iff₀ hpow, eq_div_iff hpow.ne']
    rcases hgap with hgap | hgap
    · have h1 := h.1
      rw [hgap] at h1
      exact h1
    · left
      nlinarith
  · rw [div_lt_iff₀ hpow, div_eq_iff hpow.ne']
    exact h.2

theorem nearestEven_of_le_of_lt {M : ℕ} {t : ℚ} (hM : M % 2 = 0) (h1 : (M : ℚ) - 1 / 2 ≤ t)
    (h2 : t < M + 1 / 2) : NearestEven M t := by
  refine ⟨?_, .inl h2⟩
  rcases h1.lt_or_eq with h | h
  · exact .inl h
  · exact .inr ⟨hM, h⟩

theorem two_zpow_nat_add (a : ℕ) (q : ℤ) : (2 : ℚ) ^ ((a : ℤ) + q) = 2 ^ a * 2 ^ q := by
  rw [zpow_add₀ two_ne_zero, zpow_natCast]

/-- The bounds of the binade of `r` bound the binade of rounding. -/
theorem lt_of_zpow_le_of_lt {l e : ℤ} {r : ℚ} (h1 : (2 : ℚ) ^ l ≤ r) (h2 : r < 2 ^ e) : l < e :=
  (zpow_lt_zpow_iff_right₀ one_lt_two).mp (lt_of_le_of_lt h1 h2)

/-- Rounding works `p - 1` places below the binade of `num / den`, but not below the least
exponent. -/
theorem roundExp_eq (hp : 1 ≤ f.precision) (num den : ℕ) :
    f.roundExp num den = max (floorLog2 num den - (f.precision - 1 : ℕ)) f.minQ := by
  rw [roundExp, Nat.cast_sub hp, Nat.cast_one]

/-- Rounding that works at the exponent of a number of the format, and finds the scaled
quotient within a half of its significand there, gives that number. -/
theorem roundRat_of_nearestEven {m : ℕ} {q : ℤ} (hc : f.Canonical m q) {num den : ℕ}
    (hnum : num ≠ 0) (hden : 0 < den) (hexp : f.roundExp num den = q)
    (hnear : NearestEven m ((num / den : ℚ) / 2 ^ q)) : f.roundRat num den = some (m, q) := by
  rw [roundRat_eq f den hnum, hexp, roundHalfEven_eq (by positivity) (by rwa [scaled_div])]
  exact settle_of_ne f hc.lt.ne hc.le_maxQ

/-- Every rational between the halfway points around a number of the format rounds to it. -/
theorem roundRat_eq_some (hp : 2 ≤ f.precision) {m : ℕ} {q : ℤ} (hc : f.Canonical m q)
    {num den : ℕ} (hden : 0 < den) (hr : f.RoundsTo m q (num / den)) :
    f.roundRat num den = some (m, q) := by
  set r : ℚ := num / den with hr_def
  have hr0 : 0 < r := hr.pos hc.pos
  have hnum : 0 < num := Nat.pos_of_ne_zero fun h0 => by simp [hr_def, h0] at hr0
  obtain ⟨hl1, hl2⟩ := floorLog2_spec hnum hden
  set l := floorLog2 num den
  set P := f.precision - 1 with hP
  have hprec : f.precision = P + 1 := by omega
  have hpow : (0 : ℚ) < 2 ^ q := zpow_pos two_pos q
  have hgap := lowerGap_le (f := f) m q
  have hlower := hr.lower_le
  have hupper := hr.le_upper
  -- `r` lies below the next binade
  have hm_top : (m : ℚ) + 1 ≤ 2 ^ (P + 1) := by
    have := hc.lt
    rw [hprec] at this
    exact_mod_cast this
  have hup : r < 2 ^ (((P + 1 : ℕ) : ℤ) + q) := by
    rw [two_zpow_nat_add]
    nlinarith
  have hl_le : l ≤ P + q := by
    have := lt_of_zpow_le_of_lt hl1 hup
    push_cast at this
    omega
  have hexp_eq : ∀ e, max (l - P) f.minQ = e → f.roundExp num den = e :=
    fun e he => (roundExp_eq (by omega) num den).trans he
  by_cases hnorm : 2 ^ P ≤ m
  · -- a significand of full length: the binade of `r` is that of `m · 2^q` or the one below
    have hmP : (2 : ℚ) ^ P ≤ m := by exact_mod_cast hnorm
    have hP1 : (1 : ℚ) ≤ 2 ^ (P - 1) := one_le_pow₀ one_le_two
    have hPsucc : (2 : ℚ) ^ P = 2 ^ (P - 1) * 2 := by rw [← pow_succ]; congr 1; omega
    have hlow : (2 : ℚ) ^ (((P - 1 : ℕ) : ℤ) + q) < r := by
      rw [two_zpow_nat_add]
      nlinarith
    have hl_ge : (P : ℤ) - 1 + q ≤ l := by
      have := lt_of_zpow_le_of_lt (le_of_lt hlow) hl2
      have hP1 : 1 ≤ P := by omega
      push_cast [hP1] at this
      omega
    rcases (show l = P + q ∨ l = P - 1 + q by omega) with hl | hl
    · -- rounding works at `q`
      have hexp : f.roundExp num den = q := hexp_eq q (by rw [hl]; simp [hc.minQ_le])
      have hnear : NearestEven m (r / 2 ^ q) := by
        refine hr.nearestEven ?_
        by_cases hm : m = 2 ^ P
        · right
          have : (2 : ℚ) ^ (((P : ℕ) : ℤ) + q) ≤ r := by rw [← hl]; exact hl1
          rw [two_zpow_nat_add] at this
          rw [hm]
          exact_mod_cast this
        · left
          simp [lowerGap, ← hP, hm]
      exact roundRat_of_nearestEven hc hnum.ne' hden hexp hnear
    · by_cases hq : f.minQ < q
      · -- below the least significand of the binade: rounding works at `q - 1`, reaches the
        -- top significand and comes back to `m`
        have hexp : f.roundExp num den = q - 1 := hexp_eq (q - 1) (by rw [hl]; omega)
        have hrtop : r < 2 ^ P * 2 ^ q := by
          have := hl2
          rw [hl, show (P : ℤ) - 1 + q + 1 = (P : ℕ) + q by ring, two_zpow_nat_add] at this
          exact this
        have hm : m = 2 ^ P := by
          have : (m : ℚ) < 2 ^ P + 1 := by nlinarith
          have : m < 2 ^ P + 1 := by exact_mod_cast this
          omega
        have hgap4 : f.lowerGap m q = 1 / 4 := by simp [lowerGap, ← hP, hm, hq]
        have hnear : NearestEven (2 ^ (P + 1)) (r / 2 ^ (q - 1)) := by
          have ht : r / 2 ^ (q - 1) = 2 * (r / 2 ^ q) := by
            rw [zpow_sub₀ two_ne_zero, zpow_one]
            field_simp
          rw [hgap4, hm] at hlower
          push_cast at hlower
          have hlo : (2 : ℚ) ^ P - 1 / 4 ≤ r / 2 ^ q := by rw [le_div_iff₀ hpow]; linarith
          have hhi : r / 2 ^ q < 2 ^ P := by rw [div_lt_iff₀ hpow]; linarith
          refine nearestEven_of_le_of_lt (by rw [pow_succ]; simp) ?_ ?_ <;>
            rw [ht] <;> push_cast <;> rw [pow_succ] <;> linarith
        rw [roundRat_eq f den hnum.ne', hexp, roundHalfEven_eq (by positivity) (by rwa [scaled_div]),
          ← hprec, settle_top f (by linarith [hc.le_maxQ]), sub_add_cancel, ← hP, hm]
      · -- at the least exponent the binade below is not used
        have hqmin : q = f.minQ := le_antisymm (not_lt.mp hq) hc.minQ_le
        have hexp : f.roundExp num den = q := hexp_eq q (by rw [hl]; omega)
        have hnear : NearestEven m (r / 2 ^ q) :=
          hr.nearestEven (.inl (by simp [lowerGap, hq]))
        exact roundRat_of_nearestEven hc hnum.ne' hden hexp hnear
  · -- a short significand is at the least exponent, below the binade of full length
    have hqmin : q = f.minQ := hc.normal.resolve_left hnorm
    have hm1 : (m : ℚ) + 1 ≤ 2 ^ P := by exact_mod_cast (show m + 1 ≤ 2 ^ P by omega)
    have hsmall : r < 2 ^ ((P : ℕ) + q) := by
      rw [two_zpow_nat_add]
      nlinarith
    have hl' : l < P + q := lt_of_zpow_le_of_lt hl1 hsmall
    have hexp : f.roundExp num den = q := hexp_eq q (by omega)
    have hnear : NearestEven m (r / 2 ^ q) :=
      hr.nearestEven (.inl (by simp [lowerGap, hqmin]))
    exact roundRat_of_nearestEven hc hnum.ne' hden hexp hnear

end FloatFormat

namespace Binary64

theorem minQ_eq : FloatFormat.binary64.minQ = -1074 := by decide

theorem maxQ_eq : FloatFormat.binary64.maxQ = 971 := by decide

/-- The fields of a finite double: the sign bit, an exponent field `e` and a fraction `f`; a
subnormal or a zero has the exponent field zero, a normal number has the hidden bit and an
exponent field below the all-ones one. -/
theorem view_eq_finite {x : Binary64} {neg : Bool} {m : ℕ} {q : ℤ}
    (h : x.view = .finite neg m q) :
    ∃ e f : ℕ, x.bits.toNat = (if neg then 2 ^ 63 else 0) + e * 2 ^ 52 + f ∧ f < 2 ^ 52 ∧
      ((e = 0 ∧ m = f ∧ q = -1074) ∨ (0 < e ∧ e < 2047 ∧ m = f + 2 ^ 52 ∧ q = e - 1075)) := by
  have hb := x.bits.toNat_lt
  unfold view FloatFormat.decode at h
  simp only [FloatFormat.binary64, FloatFormat.width, FloatFormat.topField, FloatFormat.minQ,
    FloatFormat.bias, Nat.pow_eq] at h
  norm_num at h
  refine ⟨x.bits.toNat / 2 ^ 52 % 2 ^ 11, x.bits.toNat % 2 ^ 52, ?_, Nat.mod_lt _ (by norm_num), ?_⟩
  -- the all-ones exponent field is not finite, so the field is zero or in between
  all_goals split_ifs at h with htop hnan hzero
  all_goals obtain ⟨rfl, rfl, rfl⟩ := h
  · split <;> rename_i hs <;> simp only [beq_iff_eq] at hs <;> omega
  · split <;> rename_i hs <;> simp only [beq_iff_eq] at hs <;> omega
  · exact .inl ⟨by omega, by omega, rfl⟩
  · exact .inr ⟨by omega, by omega, by omega, by omega⟩

theorem encodeFinite_binary64 (neg : Bool) (m : ℕ) (q : ℤ) :
    FloatFormat.binary64.encodeFinite neg m q = (if neg then 2 ^ 63 else 0) +
      if m < 2 ^ 52 then m else (q + 1075).toNat * 2 ^ 52 + (m - 2 ^ 52) := by
  unfold FloatFormat.encodeFinite
  norm_num [FloatFormat.binary64, FloatFormat.width, FloatFormat.minQ, FloatFormat.bias]
  split_ifs <;> omega

/-- A finite double is the encoding of its significand and exponent. -/
theorem ofBitsNat_encodeFinite {x : Binary64} {neg : Bool} {m : ℕ} {q : ℤ}
    (h : x.view = .finite neg m q) : ofBitsNat (FloatFormat.binary64.encodeFinite neg m q) = x := by
  obtain ⟨e, f, hbits, hf, hfields⟩ := view_eq_finite h
  have henc : FloatFormat.binary64.encodeFinite neg m q = x.bits.toNat := by
    rw [encodeFinite_binary64, hbits]
    rcases hfields with ⟨rfl, rfl, rfl⟩ | ⟨he1, he2, rfl, rfl⟩
    · rw [if_pos hf]
      omega
    · have : ¬ f + 2 ^ 52 < 2 ^ 52 := by omega
      rw [if_neg this]
      omega
  rw [henc, ofBitsNat, UInt64.ofNat_toNat]

/-- A positive finite double is a number of the binary64 format in its written form. -/
theorem canonical_of_view {x : Binary64} {neg : Bool} {m : ℕ} {q : ℤ}
    (h : x.view = .finite neg m q) (hm : 0 < m) : FloatFormat.binary64.Canonical m q := by
  obtain ⟨e, f, -, hf, hfields⟩ := view_eq_finite h
  have hp : FloatFormat.binary64.precision = 53 := rfl
  refine ⟨hm, ?_, ?_, ?_, ?_⟩
  · rw [hp]
    rcases hfields with ⟨-, rfl, -⟩ | ⟨-, -, rfl, -⟩ <;> omega
  · rw [minQ_eq]
    rcases hfields with ⟨-, -, rfl⟩ | ⟨h1, -, -, rfl⟩ <;> omega
  · rw [maxQ_eq]
    rcases hfields with ⟨-, -, rfl⟩ | ⟨-, h2, -, rfl⟩ <;> omega
  · rw [hp, minQ_eq]
    rcases hfields with ⟨-, -, hq⟩ | ⟨-, -, hm', -⟩
    · exact .inr hq
    · exact .inl (by omega)

/-- A zero has the least exponent. -/
theorem view_zero {x : Binary64} {neg : Bool} {q : ℤ} (h : x.view = .finite neg 0 q) :
    q = FloatFormat.binary64.minQ := by
  obtain ⟨e, f, -, -, hfields⟩ := view_eq_finite h
  rw [minQ_eq]
  rcases hfields with ⟨-, -, hq⟩ | ⟨-, -, h0, -⟩
  · exact hq
  · omega

end Binary64

end RecordQuery
