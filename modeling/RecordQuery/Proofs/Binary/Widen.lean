import RecordQuery.Proofs.Binary.Nearest

/-!
# Widening a single to a double

Every single is a double too: a finite single `m · 2^q` has `m < 2^24` and `q` from `-149`
to `104`, well inside the significands and exponents of binary64. Widening gives the double
of the same number (`Binary32.toBinary64_sameNumber`): a NaN stays a NaN, an infinity keeps
its sign, and a finite single keeps its sign and its value, zeros included.

The finite case rests on the encoding of binary64: a sign, significand and exponent in written
form are what their bit pattern denotes (`Binary64.view_ofBitsNat_encodeFinite`), and an exact
value is its own rounding.
-/

namespace RecordQuery

/-- Two views denote the same number: both are NaN, both are the infinity of one sign, or both
are finite with one sign and one value. -/
def FloatView.SameNumber : FloatView → FloatView → Prop
  | .nan, .nan => True
  | .infinite a, .infinite b => a = b
  | .finite a m q, .finite b n p => a = b ∧ (m : ℚ) * 2 ^ q = n * 2 ^ p
  | _, _ => False

/-- A number of a format rounds to itself. -/
theorem FloatFormat.roundsTo_self (f : FloatFormat) (m : ℕ) (q : ℤ) :
    f.RoundsTo m q (m * 2 ^ q) := by
  have hpow : (0 : ℚ) < 2 ^ q := zpow_pos two_pos q
  have hgap := FloatFormat.lowerGap_pos (f := f) m q
  refine ⟨.inl ?_, .inl ?_⟩ <;> nlinarith

namespace Binary64

open FloatFormat

/-- The pattern of a sign, a significand and an exponent of binary64 in written form denotes
them. -/
theorem view_ofBitsNat_encodeFinite (neg : Bool) {m : ℕ} {q : ℤ} (hm : m < 2 ^ 53)
    (hq1 : -1074 ≤ q) (hq2 : q ≤ 971) (hn : 2 ^ 52 ≤ m ∨ q = -1074) :
    (ofBitsNat (binary64.encodeFinite neg m q)).view = .finite neg m q := by
  have hmag : binary64.encodeFinite false m q < 2 ^ 63 := by
    rw [encodeFinite_false]
    split <;> omega
  obtain ⟨hs, hmb⟩ := signBit_magBits_ofBitsNat neg hmag
  rw [encodeFinite_eq_add neg m q, view_eq, hs, hmb, encodeFinite_false]
  by_cases hsub : m < 2 ^ 52
  · -- a subnormal or a zero: the exponent field is zero
    have hq : q = -1074 := hn.resolve_left (by omega)
    rw [if_pos hsub, if_neg (by omega), if_pos (by omega), Nat.mod_eq_of_lt hsub, hq]
  · -- a normal number: the exponent field is `q + 1075`
    rw [if_neg hsub, if_neg (by omega), if_neg (by omega)]
    congr 1 <;> omega

/-- A pattern whose exponent field is all ones and whose fraction is not zero is a NaN. -/
theorem view_eq_nan {x : Binary64} (h1 : x.magBits / 2 ^ 52 = 2047) (h2 : x.magBits % 2 ^ 52 ≠ 0) :
    x.view = .nan := by
  rw [view_eq, if_pos h1, if_neg h2]

theorem view_infinity (neg : Bool) : (infinity neg).view = .infinite neg := by
  cases neg <;> rfl

end Binary64

namespace Binary32

variable {x : Binary32} {neg : Bool} {m : ℕ} {q : ℤ}

/-- A finite single has a significand below `2^24` and an exponent from `-149` to `104`, and
its significand is full unless the exponent is the least. -/
theorem view_finite_bounds (h : x.view = .finite neg m q) :
    m < 2 ^ 24 ∧ -149 ≤ q ∧ q ≤ 104 ∧ (2 ^ 23 ≤ m ∨ q = -149) := by
  have hb := x.bits.toNat_lt
  unfold view FloatFormat.decode at h
  simp only [FloatFormat.binary32, FloatFormat.width, FloatFormat.topField, FloatFormat.minQ,
    FloatFormat.bias, Nat.pow_eq] at h
  norm_num at h
  split_ifs at h with htop hzero
  all_goals obtain ⟨rfl, rfl, rfl⟩ := h
  · exact ⟨by omega, by omega, by omega, .inr rfl⟩
  · refine ⟨by omega, by omega, by omega, .inl (by omega)⟩

/-- An infinite single is widened to the infinity of its sign. -/
theorem toBinary64_view_infinite (h : x.view = .infinite neg) :
    x.toBinary64.view = .infinite neg := by
  simp only [toBinary64, h]
  exact Binary64.view_infinity neg

/-- A NaN single is widened to a NaN: the exponent field becomes all ones, and the quiet bit
makes the fraction not zero whatever the payload. -/
theorem toBinary64_view_nan (h : x.view = .nan) : x.toBinary64.view = .nan := by
  simp only [toBinary64, h]
  set sign := if x.bits.toNat ≥ Nat.pow 2 31 then Nat.pow 2 63 else 0 with hsign
  set f := x.bits.toNat % Nat.pow 2 23 * Nat.pow 2 29 with hf
  have hf52 : f < 2 ^ 52 := by
    simp only [hf, Nat.pow_eq]
    omega
  have hsign' : sign = 0 ∨ sign = 2 ^ 63 := by
    simp only [hsign, Nat.pow_eq]
    split <;> simp
  have htop : FloatFormat.binary64.topField = 2047 := rfl
  rw [htop]
  set N := sign + 2047 * Nat.pow 2 52 + f with hN
  -- the quiet bit lies inside the fraction, below the exponent field
  set g := f ||| 2 ^ 51 with hg
  have hg1 : 2 ^ 51 ≤ g := Nat.right_le_or
  have hg2 : g < 2 ^ 52 := Nat.or_lt_two_pow hf52 (by norm_num)
  have hdiv : (N ||| Nat.pow 2 51) / 2 ^ 52 = N / 2 ^ 52 := by
    rw [Nat.pow_eq, Nat.or_div_two_pow, Nat.div_eq_of_lt (show 2 ^ 51 < 2 ^ 52 by norm_num),
      Nat.or_zero]
  have hmod : (N ||| Nat.pow 2 51) % 2 ^ 52 = g := by
    rw [Nat.pow_eq, Nat.or_mod_two_pow, Nat.mod_eq_of_lt (show 2 ^ 51 < 2 ^ 52 by norm_num)]
    congr 1
    simp only [hN, Nat.pow_eq]
    omega
  have hbits : N ||| Nat.pow 2 51 = sign + 2047 * 2 ^ 52 + g := by
    have := Nat.div_add_mod (N ||| Nat.pow 2 51) (2 ^ 52)
    rw [hdiv, hmod] at this
    simp only [hN, Nat.pow_eq] at this ⊢
    omega
  apply Binary64.view_eq_nan
  all_goals
    simp only [Binary64.magBits, hbits]
    rw [Binary64.toNat_ofBitsNat (by omega)]
    omega

open FloatFormat in
/-- A finite single is widened to a double of the same sign and value. -/
theorem toBinary64_view_finite (h : x.view = .finite neg m q) :
    ∃ m' q', x.toBinary64.view = .finite neg m' q' ∧ (m : ℚ) * 2 ^ q = m' * 2 ^ q' := by
  obtain ⟨hm, hq1, hq2, -⟩ := view_finite_bounds h
  simp only [toBinary64, h, encodeExact, encodeRat, Nat.pow_eq]
  rcases Nat.eq_zero_or_pos m with rfl | hpos
  · -- a zero of either sign is the zero of binary64 with that sign
    refine ⟨0, -1074, ?_, by simp⟩
    have hround : binary64.roundRat (0 * 2 ^ q.toNat) (2 ^ (-q).toNat) = some (0, -1074) := by
      simp [roundRat, Binary64.minQ_eq]
    rw [hround]
    exact Binary64.view_ofBitsNat_encodeFinite neg (by norm_num) le_rfl (by norm_num) (.inr rfl)
  · -- a positive value: its significand shifted up to 53 bits, in binary64's written form
    have hl : m.log2 < 24 := (Nat.log2_lt hpos.ne').mpr hm
    have hlo : 2 ^ m.log2 ≤ m := Nat.log2_self_le hpos.ne'
    have hhi : m < 2 ^ (m.log2 + 1) := Nat.lt_log2_self
    set k := 52 - m.log2 with hk
    have hsig : 2 ^ 52 ≤ m * 2 ^ k ∧ m * 2 ^ k < 2 ^ 53 := by
      have h52 : 2 ^ 52 = 2 ^ m.log2 * 2 ^ k := by rw [← Nat.pow_add]; congr 1; omega
      have h53 : 2 ^ 53 = 2 ^ (m.log2 + 1) * 2 ^ k := by rw [← Nat.pow_add]; congr 1; omega
      exact ⟨h52 ▸ Nat.mul_le_mul_right _ hlo, h53 ▸ Nat.mul_lt_mul_of_pos_right hhi (by positivity)⟩
    have hc : binary64.Canonical (m * 2 ^ k) (q - k) :=
      ⟨by positivity, hsig.2, by rw [Binary64.minQ_eq]; omega, by rw [Binary64.maxQ_eq]; omega,
        .inl hsig.1⟩
    have hval : (m : ℚ) * 2 ^ q = ((m * 2 ^ k : ℕ) : ℚ) * 2 ^ (q - k) := by
      rw [Nat.cast_mul, Nat.cast_pow, Nat.cast_ofNat, mul_assoc, ← zpow_natCast,
        ← zpow_add₀ two_ne_zero]
      congr 2
      ring
    have hquot : ((m * 2 ^ q.toNat : ℕ) : ℚ) / ((2 ^ (-q).toNat : ℕ) : ℚ) = m * 2 ^ q := by
      rw [two_zpow_eq q, Nat.cast_mul, mul_div_assoc]
    have hround := roundRat_eq_some (by decide) hc (by positivity)
      (hquot ▸ hval ▸ binary64.roundsTo_self (m * 2 ^ k) (q - k))
    obtain ⟨-, hm53, hq1', hq2', hn⟩ := Binary64.canonical_bounds hc
    refine ⟨m * 2 ^ k, q - k, ?_, hval⟩
    rw [hround]
    exact Binary64.view_ofBitsNat_encodeFinite neg hm53 hq1' hq2' hn

/-- Widening a single gives the double of the same number: a NaN stays a NaN, an infinity
keeps its sign, and a finite single keeps its sign and its value. -/
theorem toBinary64_sameNumber (x : Binary32) : x.view.SameNumber x.toBinary64.view := by
  cases h : x.view with
  | nan =>
    rw [toBinary64_view_nan h]
    exact trivial
  | infinite neg =>
    rw [toBinary64_view_infinite h]
    exact rfl
  | finite neg m q =>
    obtain ⟨m', q', hview, hval⟩ := toBinary64_view_finite h
    rw [hview]
    exact ⟨rfl, hval⟩

end Binary32

end RecordQuery
