import RecordQuery.Proofs.Binary.Round

/-!
# The order of doubles

A double is its sign bit followed by 63 bits of magnitude: the exponent field and the fraction
(`Binary64.magBits`). Below the all-ones exponent field the magnitude bits denote a finite
number (`Binary64.bitsValue`), and the next pattern denotes the number one unit in the last
place further (`Binary64.bitsValue_succ`), the first pattern of a binade included, so that
number grows strictly with the bits (`Binary64.bitsValue_strictMono`). Everything about
the order of doubles follows from this.

The key of the total order puts the negative patterns, magnitude reversed, below the positive
ones, so the total order of finite doubles is the order of their values, with `-0` just below
`+0` (`Binary64.totalKey_lt_of_toRat_lt`), and places the classes of doubles in the order IEEE
754 prescribes: negative NaNs, negative infinity, finite numbers, positive infinity, positive
NaNs (`Binary64.totalKey_lt_of_totalClass_lt`). The IEEE comparison of two finite doubles is
the comparison of the rationals they denote (`Binary64.compare?_eq_compare_toRat`).
-/

namespace RecordQuery

namespace Binary64

/-! ### Sign and magnitude -/

/-- The 63 bits of a double after its sign: the exponent field and the fraction. -/
def magBits (x : Binary64) : ℕ := x.bits.toNat % 2 ^ 63

theorem magBits_lt (x : Binary64) : x.magBits < 2 ^ 63 := Nat.mod_lt _ (by norm_num)

/-- A double is its sign bit above its magnitude bits. -/
theorem bits_eq (x : Binary64) :
    x.bits.toNat = (if x.signBit then 2 ^ 63 else 0) + x.magBits := by
  have hb := x.bits.toNat_lt
  unfold signBit magBits
  split <;> rename_i h <;> simp only [Nat.pow_eq, ge_iff_le, decide_eq_true_eq] at h <;> omega

/-- Doubles with one sign and one magnitude are one double. -/
theorem ext_magBits {x y : Binary64} (hs : x.signBit = y.signBit) (hm : x.magBits = y.magBits) :
    x = y := by
  have h : x.bits.toNat = y.bits.toNat := by rw [bits_eq x, bits_eq y, hs, hm]
  cases x
  cases y
  congr
  exact UInt64.toNat_inj.mp h

/-- What the magnitude bits `b` denote below the all-ones exponent field: a subnormal
`b · 2^-1074` for a zero exponent field, else the fraction with its hidden bit, scaled by the
exponent. -/
def bitsValue (b : ℕ) : ℚ :=
  if b < 2 ^ 52 then b * 2 ^ (-1074 : ℤ)
  else (b % 2 ^ 52 + 2 ^ 52 : ℕ) * 2 ^ ((b / 2 ^ 52 : ℕ) - 1075 : ℤ)

/-- The exponent of the last place of the magnitude bits `b`: the least exponent below the
first normal binade, else the exponent of `b`'s binade. -/
def ulpExp (b : ℕ) : ℤ := if b < 2 ^ 52 then -1074 else (b / 2 ^ 52 : ℕ) - 1075

/-- The next magnitude bits denote the number one unit in the last place further: within a
binade, and also from the greatest subnormal to the least normal number and from the last
pattern of a binade to the first of the next. -/
theorem bitsValue_succ (b : ℕ) : bitsValue (b + 1) = bitsValue b + 2 ^ ulpExp b := by
  unfold bitsValue ulpExp
  by_cases h1 : b + 1 < 2 ^ 52
  · -- two subnormals
    have h0 : b < 2 ^ 52 := by omega
    rw [if_pos h1, if_pos h0, if_pos h0, Nat.cast_succ]
    exact add_one_mul _ _
  by_cases h0 : b < 2 ^ 52
  · -- the greatest subnormal and the least normal number
    have hb : b = 2 ^ 52 - 1 := by omega
    subst hb
    norm_num
    rw [← add_one_mul]
    norm_num
  rw [if_neg h0, if_neg h1, if_neg h0]
  by_cases hc : (b + 1) % 2 ^ 52 = 0
  · -- the last pattern of a binade and the first of the next
    have he : (b + 1) / 2 ^ 52 = b / 2 ^ 52 + 1 := by omega
    have hf : b % 2 ^ 52 = 2 ^ 52 - 1 := by omega
    rw [hc, he, hf]
    generalize b / 2 ^ 52 = e
    have hexp : ((e + 1 : ℕ) : ℤ) - 1075 = (e : ℤ) - 1075 + 1 := by push_cast; ring
    rw [hexp, zpow_add_one₀ two_ne_zero]
    norm_num
    ring
  · -- one unit further within a binade
    have he : (b + 1) / 2 ^ 52 = b / 2 ^ 52 := by omega
    have hf : (b + 1) % 2 ^ 52 = b % 2 ^ 52 + 1 := by omega
    rw [he, hf]
    push_cast
    ring

theorem bitsValue_lt_succ (b : ℕ) : bitsValue b < bitsValue (b + 1) := by
  rw [bitsValue_succ]
  exact lt_add_of_pos_right _ (zpow_pos two_pos _)

theorem bitsValue_strictMono : StrictMono bitsValue := strictMono_nat_of_lt_succ bitsValue_lt_succ

@[simp] theorem bitsValue_zero : bitsValue 0 = 0 := by simp [bitsValue]

theorem bitsValue_nonneg (b : ℕ) : 0 ≤ bitsValue b := by
  rw [← bitsValue_zero]
  exact bitsValue_strictMono.monotone (Nat.zero_le b)

/-- What a double denotes, read off its magnitude bits: the exponent field is the magnitude
bits above bit 52 and the fraction the bits below. -/
theorem view_eq (x : Binary64) : x.view =
    if x.magBits / 2 ^ 52 = 2047 then (if x.magBits % 2 ^ 52 = 0 then .infinite x.signBit else .nan)
    else if x.magBits / 2 ^ 52 = 0 then .finite x.signBit (x.magBits % 2 ^ 52) (-1074)
    else .finite x.signBit (x.magBits % 2 ^ 52 + 2 ^ 52) ((x.magBits / 2 ^ 52 : ℕ) - 1075) := by
  have hb := x.bits.toNat_lt
  -- the fields of the pattern are those of the magnitude bits, and the sign bit
  have hfield : x.bits.toNat / 4503599627370496 % 2048 = x.magBits / 2 ^ 52 := by
    unfold magBits
    omega
  have hfrac : x.bits.toNat % 4503599627370496 = x.magBits % 2 ^ 52 := by
    unfold magBits
    omega
  have hsign : (x.bits.toNat / 9223372036854775808 % 2 == 1) = x.signBit := by
    unfold signBit
    by_cases h : 2 ^ 63 ≤ x.bits.toNat
    · simp only [Nat.pow_eq, ge_iff_le, h, decide_true, beq_iff_eq]
      omega
    · simp only [Nat.pow_eq, ge_iff_le, h, decide_false, beq_eq_false_iff_ne, ne_eq]
      omega
  unfold view FloatFormat.decode
  simp only [FloatFormat.binary64, FloatFormat.width, FloatFormat.topField, FloatFormat.minQ,
    FloatFormat.bias, Nat.pow_eq]
  norm_num only
  rw [hfield, hfrac, hsign]
  norm_num only [beq_iff_eq]
  split_ifs
  · rfl
  · rfl
  · rfl
  · congr 1
    omega

/-- A double is finite exactly when its exponent field is not all ones. -/
theorem isFinite_iff (x : Binary64) : x.isFinite = true ↔ x.magBits < 2047 * 2 ^ 52 := by
  have := x.magBits_lt
  unfold isFinite
  rw [view_eq]
  split_ifs <;> simp <;> omega

/-- A double is a NaN exactly when its exponent field is all ones and its fraction is not
zero. -/
theorem isNaN_iff (x : Binary64) : x.isNaN = true ↔ 2047 * 2 ^ 52 < x.magBits := by
  have := x.magBits_lt
  unfold isNaN
  rw [view_eq]
  split_ifs <;> simp <;> omega

theorem isZero_iff (x : Binary64) : x.isZero = true ↔ x.magBits = 0 := by
  simp [isZero, magBits, Nat.pow_eq]

/-- The total-order key of a double: its magnitude above `2^63` when positive, reversed below
it when negative. -/
theorem totalKey_eq (x : Binary64) :
    x.totalKey = if x.signBit then 2 ^ 63 - 1 - x.magBits else 2 ^ 63 + x.magBits := by
  have hb := bits_eq x
  have := x.magBits_lt
  unfold totalKey
  cases hs : x.signBit <;> rw [hs] at hb <;>
    simp only [Bool.false_eq_true, if_true, if_false, Nat.pow_eq, ge_iff_le] at hb ⊢ <;>
    split <;> omega

/-- The rational number a finite double denotes; `0` for an infinity or a NaN. -/
def toRat (x : Binary64) : ℚ :=
  match x.view with
  | .finite neg m q => (if neg then -1 else 1) * (m * 2 ^ q)
  | _ => 0

/-- A finite double denotes the value of its magnitude bits, negated when its sign bit is
set. -/
theorem toRat_eq {x : Binary64} (hx : x.isFinite = true) :
    x.toRat = if x.signBit then -bitsValue x.magBits else bitsValue x.magBits := by
  rw [isFinite_iff] at hx
  unfold toRat
  rw [view_eq, if_neg (by omega)]
  unfold bitsValue
  by_cases h : x.magBits < 2 ^ 52
  · have h' : x.magBits < 4503599627370496 := h
    rw [if_pos (by omega), if_pos h]
    cases x.signBit <;> simp [h']
  · rw [if_neg (by omega), if_neg h]
    cases x.signBit <;> simp

/-! ### The order of finite doubles -/

variable {x y : Binary64}

/-- Among finite doubles, a smaller value has a smaller total-order key. -/
theorem totalKey_lt_of_toRat_lt (hx : x.isFinite = true) (hy : y.isFinite = true)
    (h : x.toRat < y.toRat) : x.totalKey < y.totalKey := by
  rw [toRat_eq hx, toRat_eq hy] at h
  have hmx := x.magBits_lt
  have hmy := y.magBits_lt
  rw [totalKey_eq, totalKey_eq]
  cases hsx : x.signBit <;> cases hsy : y.signBit <;>
    simp only [hsx, hsy, Bool.false_eq_true, if_true, if_false] at h ⊢
  · -- two positive doubles: the larger value has the larger magnitude bits
    have := bitsValue_strictMono.lt_iff_lt.mp h
    omega
  · -- a positive double is not below a negative one
    have := bitsValue_nonneg x.magBits
    have := bitsValue_nonneg y.magBits
    linarith
  · omega
  · -- two negative doubles: the larger value has the smaller magnitude bits
    have := bitsValue_strictMono.lt_iff_lt.mp (neg_lt_neg_iff.mp h)
    omega

/-- Finite doubles with one value are one double, or the two zeros. -/
theorem eq_or_isZero_of_toRat_eq (hx : x.isFinite = true) (hy : y.isFinite = true)
    (h : x.toRat = y.toRat) : x = y ∨ (x.isZero = true ∧ y.isZero = true) := by
  rw [toRat_eq hx, toRat_eq hy] at h
  rw [isZero_iff, isZero_iff]
  have hx0 := bitsValue_nonneg x.magBits
  have hy0 := bitsValue_nonneg y.magBits
  -- a magnitude that denotes zero is zero
  have hzero : ∀ b, bitsValue b = 0 → b = 0 := fun b hb =>
    bitsValue_strictMono.injective (hb.trans bitsValue_zero.symm)
  cases hsx : x.signBit <;> cases hsy : y.signBit <;>
    simp only [hsx, hsy, Bool.false_eq_true, if_true, if_false] at h
  · exact .inl (ext_magBits (hsx.trans hsy.symm) (bitsValue_strictMono.injective h))
  · exact .inr ⟨hzero _ (by linarith), hzero _ (by linarith)⟩
  · exact .inr ⟨hzero _ (by linarith), hzero _ (by linarith)⟩
  · exact .inl (ext_magBits (hsx.trans hsy.symm) (bitsValue_strictMono.injective (neg_inj.mp h)))

theorem isNaN_eq_false_of_isFinite (hx : x.isFinite = true) : x.isNaN = false := by
  rw [isFinite_iff] at hx
  cases h : x.isNaN
  · rfl
  · rw [isNaN_iff] at h
    omega

theorem toRat_eq_zero (hx : x.isFinite = true) (h : x.isZero = true) : x.toRat = 0 := by
  rw [toRat_eq hx, (isZero_iff x).mp h, bitsValue_zero]
  simp

/-- The IEEE comparison of two finite doubles is the comparison of their values. -/
theorem compare?_eq_compare_toRat (hx : x.isFinite = true) (hy : y.isFinite = true) :
    x.compare? y = some (compare x.toRat y.toRat) := by
  unfold compare?
  rw [isNaN_eq_false_of_isFinite hx, isNaN_eq_false_of_isFinite hy, Bool.or_false,
    if_neg Bool.false_ne_true]
  split
  · -- the two zeros are equal, and both denote zero
    rename_i hz
    rw [Bool.and_eq_true] at hz
    rw [toRat_eq_zero hx hz.1, toRat_eq_zero hy hz.2, compare_eq_iff_eq.mpr rfl]
  · rename_i hz
    unfold totalCompare
    rcases lt_trichotomy x.toRat y.toRat with hlt | heq | hgt
    · rw [compare_lt_iff_lt.mpr hlt, compare_lt_iff_lt.mpr (totalKey_lt_of_toRat_lt hx hy hlt)]
    · rcases eq_or_isZero_of_toRat_eq hx hy heq with rfl | ⟨h1, h2⟩
      · rw [compare_eq_iff_eq.mpr rfl, compare_eq_iff_eq.mpr rfl]
      · simp [h1, h2] at hz
    · rw [compare_gt_iff_gt.mpr hgt, compare_gt_iff_gt.mpr (totalKey_lt_of_toRat_lt hy hx hgt)]

/-! ### Classes in the total order -/

/-- The place of a double's class in the IEEE 754 total order: negative NaNs, negative
infinity, finite numbers, positive infinity, positive NaNs. -/
def totalClass (x : Binary64) : ℕ :=
  if x.isFinite then 2
  else if x.isNaN then (if x.signBit then 0 else 4)
  else if x.signBit then 1 else 3

/-- The total order puts the classes in their order: each class holds a band of keys, and the
bands follow one another. -/
theorem totalKey_lt_of_totalClass_lt (h : x.totalClass < y.totalClass) :
    x.totalKey < y.totalKey := by
  have hmx := x.magBits_lt
  have hmy := y.magBits_lt
  unfold totalClass at h
  rw [totalKey_eq, totalKey_eq]
  simp only [isFinite_iff, isNaN_iff] at h
  split_ifs at h ⊢ <;> omega

/-! ### The total order -/

theorem totalCompare_eq_lt_of_toRat_lt (hx : x.isFinite = true) (hy : y.isFinite = true)
    (h : x.toRat < y.toRat) : x.totalCompare y = .lt :=
  compare_lt_iff_lt.mpr (totalKey_lt_of_toRat_lt hx hy h)

theorem totalCompare_eq_lt_of_totalClass_lt (h : x.totalClass < y.totalClass) :
    x.totalCompare y = .lt :=
  compare_lt_iff_lt.mpr (totalKey_lt_of_totalClass_lt h)

/-- Doubles of one sign compare by their magnitude bits, reversed when negative; for two NaNs
these are their payloads. -/
theorem totalCompare_of_signBit_eq (h : x.signBit = y.signBit) :
    x.totalCompare y =
      if x.signBit then compare y.magBits x.magBits else compare x.magBits y.magBits := by
  have hmx := x.magBits_lt
  have hmy := y.magBits_lt
  unfold totalCompare
  rw [totalKey_eq, totalKey_eq, ← h]
  cases x.signBit <;> simp only [Bool.false_eq_true, if_true, if_false, Nat.compare_eq_ite_lt] <;>
    split_ifs <;> first | rfl | omega

/-- The total order tells every two doubles apart. -/
theorem totalCompare_eq_eq_iff : x.totalCompare y = .eq ↔ x = y := by
  unfold totalCompare
  rw [compare_eq_iff_eq]
  refine ⟨fun h => ?_, fun h => h ▸ rfl⟩
  have hmx := x.magBits_lt
  have hmy := y.magBits_lt
  rw [totalKey_eq, totalKey_eq] at h
  cases hsx : x.signBit <;> cases hsy : y.signBit <;>
    simp only [hsx, hsy, Bool.false_eq_true, if_true, if_false] at h <;>
    first | omega | exact ext_magBits (hsx.trans hsy.symm) (by omega)

/-- Negative zero is just below positive zero. -/
theorem totalCompare_neg_zero : zero.neg.totalCompare zero = .lt := by decide

end Binary64

end RecordQuery
