import RecordQuery.Proofs.Binary.Shortest
import RecordQuery.Proofs.Number.Digits
import RecordQuery.Binary.Read

/-!
# Reading the text of a double back

The text of a finite double reads back as the double (`Binary64.read?_toText`). The text is
its shortest digits `c`, written positionally or in scientific notation, after a minus for a
negative double. Each form reads as a mantissa `M` and an exponent `E` with
`M · 10^E = c · 10^s` (`DecimalLiteral.readUnsigned_positional`,
`DecimalLiteral.readUnsigned_scientific`); that value lies in the rounding interval of the
double (`Shortest.digits_roundsTo`), so rounding it gives the double back
(`FloatFormat.roundRat_eq_some`). Its magnitude is far from the `10^±400` beyond which
reading gives up rounding, since a double lies between `2^-1075` and `2^1024`.

A zero is written `0.0` or `-0.0`, which reads back as the zero of that sign.
-/

namespace RecordQuery

open Decimal

namespace DecimalLiteral

theorem isDigit_point : isDigit '.' = false := by decide

theorem isDigit_e : isDigit 'e' = false := by decide

/-- Digits with no sign in front are read as an exponent. -/
theorem readExponent_digits {ds : List Char} (hne : ds ≠ []) (hall : ∀ c ∈ ds, isDigit c = true) :
    readExponent ds = some (ofDigits ds : ℤ) := by
  have hall' : ds.all isDigit = true := List.all_eq_true.mpr hall
  have hne' : ds.isEmpty = false := List.isEmpty_eq_false_iff.mpr hne
  unfold readExponent
  split
  rename_i neg ds' hsign
  -- a digit is no sign, so the digits are read as they are
  split at hsign
  · simp [isDigit] at hall
  · simp [isDigit] at hall
  · obtain ⟨rfl, rfl⟩ := Prod.mk.inj hsign.symm
    simp [hne', hall']

/-- The decimal text of an integer is read as an exponent. -/
theorem readExponent_intText (n : ℤ) : readExponent (intText n).toList = some n := by
  have hdigits : ∀ c ∈ natDigits n.natAbs, isDigit c = true := fun c hc => isDigit_of_mem_natDigits hc
  have hne := natDigits_ne_nil n.natAbs
  by_cases hneg : n < 0
  · have htext : (intText n).toList = '-' :: natDigits n.natAbs := by
      simp [intText, hneg, natText]
    have hall : (natDigits n.natAbs).all isDigit = true := List.all_eq_true.mpr hdigits
    rw [htext]
    simp only [readExponent, List.isEmpty_eq_false_iff.mpr hne, hall, ofDigits_natDigits]
    simp only [Bool.not_true, Bool.or_self, Bool.false_eq_true, if_false, if_true, Option.some.injEq]
    omega
  · have htext : (intText n).toList = natDigits n.natAbs := by
      simp [intText, hneg, natText]
    rw [htext, readExponent_digits hne hdigits, ofDigits_natDigits]
    congr 1
    omega

variable {a b : List Char}

/-- Digits, a point and digits make a number with as many decimals as there are digits after
the point. -/
theorem readUnsigned_point (ha : ∀ c ∈ a, isDigit c = true) (hb : ∀ c ∈ b, isDigit c = true)
    (hne : a ≠ []) :
    readUnsigned (a ++ '.' :: b) = some (ofDigits (a ++ b), -(b.length : ℤ)) := by
  have h1 : spanDigits (a ++ '.' :: b) = (a, '.' :: b) :=
    spanDigits_append ha (by simp [isDigit_point])
  have h2 : spanDigits (b ++ []) = (b, []) := spanDigits_append hb (by simp)
  rw [List.append_nil] at h2
  simp [readUnsigned, h1, h2, hne]

/-- Digits and an exponent make a number with that exponent. -/
theorem readUnsigned_exp (ha : ∀ c ∈ a, isDigit c = true) (hne : a ≠ []) (n : ℤ) :
    readUnsigned (a ++ 'e' :: (intText n).toList) = some (ofDigits a, n) := by
  have h1 : spanDigits (a ++ 'e' :: (intText n).toList) = (a, 'e' :: (intText n).toList) :=
    spanDigits_append ha (by simp [isDigit_e])
  have hlen : a.length ≠ 0 := (List.length_pos_iff.mpr hne).ne'
  simp [readUnsigned, h1, hlen, readExponent_intText]

/-- Digits, a point, digits and an exponent make a number whose exponent is lowered by the
digits after the point. -/
theorem readUnsigned_point_exp (ha : ∀ c ∈ a, isDigit c = true) (hb : ∀ c ∈ b, isDigit c = true)
    (hne : a ≠ []) (n : ℤ) :
    readUnsigned (a ++ '.' :: (b ++ 'e' :: (intText n).toList)) =
      some (ofDigits (a ++ b), n - b.length) := by
  have h1 : spanDigits (a ++ '.' :: (b ++ 'e' :: (intText n).toList)) =
      (a, '.' :: (b ++ 'e' :: (intText n).toList)) :=
    spanDigits_append ha (by simp [isDigit_point])
  have h2 : spanDigits (b ++ 'e' :: (intText n).toList) = (b, 'e' :: (intText n).toList) :=
    spanDigits_append hb (by simp [isDigit_e])
  simp [readUnsigned, h1, h2, hne, readExponent_intText]

theorem ofDigits_append_zeros (ds : List Char) (n : ℕ) :
    ofDigits (ds ++ List.replicate n '0') = ofDigits ds * 10 ^ n := by
  rw [ofDigits_append, ofDigits_replicate_zero, List.length_replicate, Nat.add_zero]

variable {ds : List Char}

/-- A positional text reads as its digits times the power of ten that the place of the point
gives. -/
theorem readUnsigned_positional (hds : ∀ c ∈ ds, isDigit c = true) (hne : ds ≠ []) (k : ℤ) :
    ∃ M E, readUnsigned (FloatStyle.positional ds k) = some (M, E) ∧
      (M : ℚ) * 10 ^ E = ofDigits ds * 10 ^ (k - ds.length) := by
  have h0 : isDigit '0' = true := by decide
  unfold FloatStyle.positional
  split_ifs with hk hlt
  · -- `0.`, then zeros, then the digits
    have hz : ∀ c ∈ List.replicate (-k).toNat '0' ++ ds, isDigit c = true := by
      intro c hc
      rcases List.mem_append.mp hc with hc | hc
      · rw [List.eq_of_mem_replicate hc]
        exact h0
      · exact hds c hc
    have htext : ['0', '.'] ++ List.replicate (-k).toNat '0' ++ ds =
        ['0'] ++ '.' :: (List.replicate (-k).toNat '0' ++ ds) := by simp
    refine ⟨_, _, by rw [htext, readUnsigned_point (by simpa using h0) hz (by simp)], ?_⟩
    have hzeros : ['0'] ++ List.replicate (-k).toNat '0' = List.replicate ((-k).toNat + 1) '0' := by
      simp [List.replicate_succ]
    rw [← List.append_assoc, hzeros, ofDigits_zeros_append]
    congr 2
    simp only [List.length_append, List.length_replicate]
    push_cast
    omega
  · -- the point stands between the digits
    have htake : ds.take k.toNat ≠ [] := by
      simp only [ne_eq, List.take_eq_nil_iff, not_or]
      exact ⟨by omega, hne⟩
    have htext : ds.take k.toNat ++ ['.'] ++ ds.drop k.toNat = ds.take k.toNat ++ '.' :: ds.drop k.toNat := by
      simp
    refine ⟨_, _, by
      rw [htext, readUnsigned_point (fun c hc => hds c (List.mem_of_mem_take hc))
        (fun c hc => hds c (List.mem_of_mem_drop hc)) htake], ?_⟩
    rw [List.take_append_drop]
    congr 2
    simp only [List.length_drop]
    omega
  · -- the digits, then zeros, then `.0`
    have hz : ∀ c ∈ ds ++ List.replicate (k.toNat - ds.length) '0', isDigit c = true := by
      intro c hc
      rcases List.mem_append.mp hc with hc | hc
      · exact hds c hc
      · rw [List.eq_of_mem_replicate hc]
        exact h0
    have htext : ds ++ List.replicate (k.toNat - ds.length) '0' ++ ['.', '0'] =
        (ds ++ List.replicate (k.toNat - ds.length) '0') ++ '.' :: ['0'] := rfl
    refine ⟨_, _, by rw [htext, readUnsigned_point hz (by simpa using h0) (by simp [hne])], ?_⟩
    have hM : ofDigits ((ds ++ List.replicate (k.toNat - ds.length) '0') ++ ['0']) =
        ofDigits ds * 10 ^ (k.toNat - ds.length) * 10 := by
      rw [ofDigits_append, ofDigits_append_zeros]
      rfl
    rw [hM, show k - (ds.length : ℤ) = ((k.toNat - ds.length : ℕ) : ℤ) by omega, zpow_natCast]
    simp only [List.length_singleton, Nat.cast_one, zpow_neg, zpow_one]
    push_cast
    field_simp

/-- A scientific text reads as its digits times the power of ten that its exponent and the
number of its digits give. -/
theorem readUnsigned_scientific (hds : ∀ c ∈ ds, isDigit c = true) (hne : ds ≠ []) (k : ℤ) :
    ∃ M E, readUnsigned (FloatStyle.scientific ds k) = some (M, E) ∧
      (M : ℚ) * 10 ^ E = ofDigits ds * 10 ^ (k - ds.length) := by
  rcases ds with _ | ⟨d, _ | ⟨e, rest⟩⟩
  · exact absurd rfl hne
  · -- one digit, then the exponent
    have htext : FloatStyle.scientific [d] k = [d] ++ 'e' :: (intText (k - 1)).toList := rfl
    refine ⟨_, _, by rw [htext, readUnsigned_exp hds (by simp) (k - 1)], ?_⟩
    simp only [List.length_singleton, Nat.cast_one]
  · -- a digit, the point, the other digits, then the exponent
    have htext : FloatStyle.scientific (d :: e :: rest) k =
        [d] ++ '.' :: ((e :: rest) ++ 'e' :: (intText (k - 1)).toList) := by
      simp [FloatStyle.scientific]
    refine ⟨_, _, by
      rw [htext, readUnsigned_point_exp
        (fun c hc => hds c (by rw [List.mem_singleton.mp hc]; exact List.mem_cons_self))
        (fun c hc => hds c (List.mem_cons_of_mem d hc)) (by simp)], ?_⟩
    congr 2
    simp only [List.length_cons]
    push_cast
    ring

/-- An unsigned number starts with a digit or a point: a text that starts otherwise, a sign
among them, is no unsigned number. -/
theorem readUnsigned_cons {c : Char} (hc : isDigit c = false) (hp : c ≠ '.') (t : List Char) :
    readUnsigned (c :: t) = none := by
  have h1 : spanDigits ([] ++ c :: t) = ([], c :: t) := spanDigits_append (by simp) (by simp [hc])
  rw [List.nil_append] at h1
  simp [readUnsigned, h1, hp]

/-- An unsigned number after an optional minus is read with that sign. -/
theorem read?_sign (neg : Bool) {body : List Char} {M : ℕ} {E : ℤ}
    (h : readUnsigned body = some (M, E)) :
    read? ((if neg then ['-'] else []) ++ body) = some (.number neg M E) := by
  obtain ⟨c, t, rfl⟩ : ∃ c t, body = c :: t := by
    cases body with
    | nil => simp [readUnsigned, spanDigits] at h
    | cons c t => exact ⟨c, t, rfl⟩
  cases neg with
  | true => simp [read?, h]
  | false =>
    -- the number does not start with a sign
    have hplus : c ≠ '+' := by
      rintro rfl
      rw [readUnsigned_cons (by decide) (by decide)] at h
      cases h
    have hminus : c ≠ '-' := by
      rintro rfl
      rw [readUnsigned_cons (by decide) (by decide)] at h
      cases h
    simp only [Bool.false_eq_true, if_false, List.nil_append]
    unfold read?
    split
    · rename_i heq
      split at heq
      · simp_all
      · simp_all
      · obtain ⟨rfl, rfl⟩ := Prod.mk.inj heq.symm
        simp [h]

/-- A positive decimal of `n` digits with exponent `E` lies between `10^(n+E-1)` and
`10^(n+E)`. -/
theorem value_bounds {M : ℕ} (hM : 0 < M) (E : ℤ) :
    (10 : ℚ) ^ ((digitCount M : ℤ) + E - 1) ≤ M * 10 ^ E ∧
      (M : ℚ) * 10 ^ E < 10 ^ ((digitCount M : ℤ) + E) := by
  have hlen : 1 ≤ digitCount M := List.length_pos_iff.mpr (natDigits_ne_nil M)
  have hlo : ((10 ^ (digitCount M - 1) : ℕ) : ℚ) ≤ M := by exact_mod_cast pow_length_natDigits_le hM
  have hhi : (M : ℚ) < ((10 ^ digitCount M : ℕ) : ℚ) := by exact_mod_cast lt_pow_length_natDigits M
  have hpow : (0 : ℚ) < 10 ^ E := zpow_pos (by norm_num) E
  have hsplit : (10 : ℚ) ^ ((digitCount M : ℤ) + E - 1) = 10 ^ (digitCount M - 1) * 10 ^ E := by
    rw [show (digitCount M : ℤ) + E - 1 = ((digitCount M - 1 : ℕ) : ℤ) + E by omega,
      zpow_add₀ (by norm_num), zpow_natCast]
  rw [hsplit, zpow_add₀ (by norm_num), zpow_natCast]
  push_cast at hlo hhi
  exact ⟨mul_le_mul_of_nonneg_right hlo hpow.le, mul_lt_mul_of_pos_right hhi hpow⟩

/-- A positive decimal between `2^-1075` and `2^1024` is far from the magnitudes at which
reading stops rounding. -/
theorem magnitude_bounds {M : ℕ} (hM : 0 < M) {E : ℤ} (h1 : (2 : ℚ) ^ (-1075 : ℤ) ≤ M * 10 ^ E)
    (h2 : (M : ℚ) * 10 ^ E ≤ 2 ^ (1024 : ℤ)) :
    -400 ≤ (digitCount M : ℤ) + E ∧ (digitCount M : ℤ) + E ≤ 400 := by
  obtain ⟨hlo, hhi⟩ := value_bounds hM E
  have htop : (2 : ℚ) ^ (1024 : ℤ) < 10 ^ (309 : ℤ) := by
    -- the powers are split below the size at which they are evaluated
    rw [show (1024 : ℤ) = (1024 : ℕ) from rfl, show (309 : ℤ) = (309 : ℕ) from rfl, zpow_natCast,
      zpow_natCast, show 1024 = 128 * 8 from rfl, show 309 = 103 * 3 from rfl, pow_mul, pow_mul]
    norm_num
  have hbottom : (10 : ℚ) ^ (-400 : ℤ) < 2 ^ (-1075 : ℤ) := by
    rw [zpow_neg, zpow_neg, inv_lt_inv₀ (by positivity) (by positivity),
      show (400 : ℤ) = (400 : ℕ) from rfl, show (1075 : ℤ) = (1075 : ℕ) from rfl, zpow_natCast,
      zpow_natCast, show 1075 = 215 * 5 from rfl, show 400 = 200 * 2 from rfl, pow_mul, pow_mul]
    norm_num
  have hten : (1 : ℚ) < 10 := by norm_num
  have hup := (zpow_lt_zpow_iff_right₀ hten).mp (lt_of_le_of_lt (hlo.trans h2) htop)
  have hdown := (zpow_lt_zpow_iff_right₀ hten).mp (lt_of_lt_of_le hbottom (h1.trans hhi.le))
  omega

end DecimalLiteral

namespace Binary64

/-- Whatever rounds to a positive double lies between `2^-1075` and `2^1024`. -/
theorem roundsTo_bounds {m : ℕ} {q : ℤ} {r : ℚ} (hc : FloatFormat.binary64.Canonical m q)
    (h : FloatFormat.binary64.RoundsTo m q r) : (2 : ℚ) ^ (-1075 : ℤ) ≤ r ∧ r ≤ 2 ^ (1024 : ℤ) := by
  have hm1 : (1 : ℚ) ≤ m := by exact_mod_cast hc.pos
  have hm2 : (m : ℚ) + 1 ≤ 2 ^ 53 := by exact_mod_cast (hc.lt : m < 2 ^ 53)
  have hq1 : (2 : ℚ) ^ (-1074 : ℤ) ≤ 2 ^ q :=
    zpow_le_zpow_right₀ one_le_two (minQ_eq ▸ hc.minQ_le)
  have hq2 : (2 : ℚ) ^ q ≤ 2 ^ (971 : ℤ) := zpow_le_zpow_right₀ one_le_two (maxQ_eq ▸ hc.le_maxQ)
  have hgap := FloatFormat.lowerGap_le (f := FloatFormat.binary64) m q
  have hlower := h.lower_le
  have hupper := h.le_upper
  have hpow : (0 : ℚ) < 2 ^ q := zpow_pos two_pos q
  constructor
  · calc (2 : ℚ) ^ (-1075 : ℤ) = 1 / 2 * 2 ^ (-1074 : ℤ) := by
          rw [show (-1075 : ℤ) = -1074 - 1 by norm_num, zpow_sub_one₀ two_ne_zero]
          ring
      _ ≤ 1 / 2 * 2 ^ q := by gcongr
      _ ≤ ((m : ℚ) - FloatFormat.binary64.lowerGap m q) * 2 ^ q := by gcongr; linarith
      _ ≤ r := hlower
  · calc r ≤ ((m : ℚ) + 1 / 2) * 2 ^ q := hupper
      _ ≤ 2 ^ 53 * 2 ^ q := by gcongr; linarith
      _ ≤ 2 ^ 53 * 2 ^ (971 : ℤ) := by gcongr
      _ = 2 ^ (1024 : ℤ) := by
          rw [show (1024 : ℤ) = (53 : ℕ) + 971 by norm_num, FloatFormat.two_zpow_nat_add]

end Binary64

namespace DecimalLiteral

/-- A decimal whose rounding is a number of the format, and whose magnitude is in the range
that reading rounds, is encoded as that number. -/
theorem encodeNumber_eq_encodeFinite {f : FloatFormat} (neg : Bool) {M : ℕ} {E : ℤ} (hM : M ≠ 0)
    (hmag : -400 ≤ (digitCount M : ℤ) + E ∧ (digitCount M : ℤ) + E ≤ 400) {m : ℕ} {q : ℤ}
    (h : f.roundRat (M * 10 ^ E.toNat) (10 ^ (-E).toNat) = some (m, q)) :
    encodeNumber f neg M E = f.encodeFinite neg m q := by
  have hhi : ¬ (digitCount M : ℤ) + E > 400 := by omega
  have hlo : ¬ (digitCount M : ℤ) + E < -400 := by omega
  simp only [encodeNumber, if_neg hM, hhi, hlo, if_false, FloatFormat.encodeRat, Nat.pow_eq, h]

/-- A decimal that rounds to a positive double reads as that double. -/
theorem toBinary64_of_roundsTo {x : Binary64} {neg : Bool} {m : ℕ} {q : ℤ}
    (h : x.view = .finite neg m q) (hm : 0 < m) {M : ℕ} {E : ℤ}
    (hr : FloatFormat.binary64.RoundsTo m q (M * 10 ^ E)) : (number neg M E).toBinary64 = x := by
  have hc := Binary64.canonical_of_view h hm
  have hpos := hr.pos hm
  have hM : M ≠ 0 := by
    rintro rfl
    simp at hpos
  obtain ⟨h1, h2⟩ := Binary64.roundsTo_bounds hc hr
  -- the decimal is the quotient that reading rounds
  have hq : (M : ℚ) * 10 ^ E = ((M * 10 ^ E.toNat : ℕ) : ℚ) / ((10 ^ (-E).toNat : ℕ) : ℚ) := by
    rw [Shortest.ten_zpow_eq, Nat.cast_mul, mul_div_assoc]
  rw [hq] at hr
  have hround := FloatFormat.roundRat_eq_some (by decide) hc (by positivity) hr
  rw [toBinary64, encodeNumber_eq_encodeFinite neg hM
    (magnitude_bounds (Nat.pos_of_ne_zero hM) h1 h2) hround, Binary64.ofBitsNat_encodeFinite h]

end DecimalLiteral

namespace Binary64

/-- The gap below a double is a quarter exactly when the text of a double says so. -/
theorem lowerGap_eq (m : ℕ) (q : ℤ) :
    FloatFormat.binary64.lowerGap m q =
      if (m == Nat.pow 2 52 && q > FloatFormat.binary64.minQ) then 1 / 4 else 1 / 2 := by
  have hp : FloatFormat.binary64.precision - 1 = 52 := rfl
  unfold FloatFormat.lowerGap
  rw [hp]
  by_cases h : m = 2 ^ 52 ∧ FloatFormat.binary64.minQ < q
  · rw [if_pos h, if_pos (by simp [Nat.pow_eq, h.1, h.2])]
  · rw [if_neg h, if_neg]
    simpa [Nat.pow_eq] using h

/-- The text of a positive double is its sign and its shortest digits, positional or
scientific. -/
theorem render_pos (st : FloatStyle) {x : Binary64} {neg : Bool} {m : ℕ} {q : ℤ}
    (h : x.view = .finite neg m q) (hm : m ≠ 0) {c : ℕ} {s : ℤ}
    (hd : Shortest.digits m q (m == Nat.pow 2 52 && q > FloatFormat.binary64.minQ) st.tieUp = (c, s)) :
    ∃ body, (st.render x).toList = (if neg then ['-'] else []) ++ body ∧
      (body = FloatStyle.positional (natDigits c) (s + (natDigits c).length) ∨
        body = FloatStyle.scientific (natDigits c) (s + (natDigits c).length)) := by
  unfold FloatStyle.render
  rw [h]
  dsimp only
  rw [if_neg hm, hd]
  dsimp only
  by_cases hwin : (decide (st.lowExp ≤ Shortest.floorLog10 m q) &&
      decide (Shortest.floorLog10 m q < st.highExp)) = true
  · rw [if_pos hwin]
    exact ⟨_, by cases neg <;> simp, .inl rfl⟩
  · rw [if_neg hwin]
    exact ⟨_, by cases neg <;> simp, .inr rfl⟩

/-- The text of a positive double reads back as the double. -/
theorem read?_render_pos (st : FloatStyle) {x : Binary64} {neg : Bool} {m : ℕ} {q : ℤ}
    (h : x.view = .finite neg m q) (hm : m ≠ 0) : read? (st.render x).toList = some x := by
  have hc := canonical_of_view h (Nat.pos_of_ne_zero hm)
  obtain ⟨⟨c, s⟩, hd⟩ : ∃ p, Shortest.digits m q
      (m == Nat.pow 2 52 && q > FloatFormat.binary64.minQ) st.tieUp = p := ⟨_, rfl⟩
  -- the shortest digits round to the double
  have hr := Shortest.digits_roundsTo hc (lowerGap_eq m q) st.tieUp
  rw [hd] at hr
  -- and either way of writing them reads as their value
  obtain ⟨body, htext, hbody⟩ := render_pos st h hm hd
  have hds : ∀ d ∈ natDigits c, isDigit d = true := fun d hd => isDigit_of_mem_natDigits hd
  obtain ⟨M, E, hread, hval⟩ : ∃ M E, DecimalLiteral.readUnsigned body = some (M, E) ∧
      (M : ℚ) * 10 ^ E = ofDigits (natDigits c) * 10 ^ (s + (natDigits c).length - (natDigits c).length) := by
    rcases hbody with rfl | rfl
    · exact DecimalLiteral.readUnsigned_positional hds (natDigits_ne_nil c) _
    · exact DecimalLiteral.readUnsigned_scientific hds (natDigits_ne_nil c) _
  rw [ofDigits_natDigits, add_sub_cancel_right] at hval
  rw [← hval] at hr
  unfold read?
  rw [htext, DecimalLiteral.read?_sign neg hread, Option.map_some,
    DecimalLiteral.toBinary64_of_roundsTo h (Nat.pos_of_ne_zero hm) hr]

/-- A zero is written `0.0` after its sign and reads back as itself. -/
theorem read?_render_zero (st : FloatStyle) {x : Binary64} {neg : Bool} {q : ℤ}
    (h : x.view = .finite neg 0 q) : read? (st.render x).toList = some x := by
  have htext : (st.render x).toList = (if neg then ['-'] else []) ++ ['0'] ++ '.' :: ['0'] := by
    unfold FloatStyle.render
    rw [h]
    dsimp only
    rw [if_pos rfl]
    cases neg <;> decide
  have hread : DecimalLiteral.readUnsigned (['0'] ++ '.' :: ['0']) = some (0, -1) :=
    DecimalLiteral.readUnsigned_point (fun c hc => by rw [List.mem_singleton.mp hc]; decide)
      (fun c hc => by rw [List.mem_singleton.mp hc]; decide) (by simp)
  have henc : DecimalLiteral.encodeNumber FloatFormat.binary64 neg 0 (-1) =
      FloatFormat.binary64.encodeFinite neg 0 q := by
    rw [view_zero h]
    rfl
  unfold read?
  rw [htext, List.append_assoc, DecimalLiteral.read?_sign neg hread, Option.map_some,
    DecimalLiteral.toBinary64, henc, ofBitsNat_encodeFinite h]

/-- The text of a finite double reads back as the double. -/
theorem read?_toText {x : Binary64} (hx : x.isFinite = true) : read? x.toText.toList = some x := by
  unfold isFinite at hx
  split at hx
  · rename_i neg m q h
    by_cases hm : m = 0
    · subst hm
      exact read?_render_zero _ h
    · exact read?_render_pos _ h hm
  all_goals cases hx

end Binary64

end RecordQuery
