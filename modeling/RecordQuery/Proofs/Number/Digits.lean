import Mathlib.Tactic.Ring
import RecordQuery.Number.Int128

/-!
# Reading decimal digits back

The digits that `natDigits` writes are ASCII digits, and `ofDigits` reads them back as the
number (`Decimal.ofDigits_natDigits`). Reading is a left fold, so a list of digits read in
two parts is the first part shifted by the length of the second (`Decimal.ofDigits_append`);
zeros in front change nothing, which makes padded digits read back too. A number has as many
digits as its order of magnitude says (`Decimal.pow_length_natDigits_le`,
`Decimal.lt_pow_length_natDigits`).

The decimal text of an integer in range is read back as the integer
(`Int128.read?_toText`).
-/

namespace RecordQuery

namespace Decimal

theorem isDigit_digitChar {n : Nat} (h : n < 10) : isDigit (Nat.digitChar n) = true := by
  have := Nat.isDigit_digitChar (n := n)
  simp only [h, decide_true, Char.isDigit] at this
  simpa [isDigit, Char.le_def] using this

theorem digitValue_digitChar {n : Nat} (h : n < 10) : digitValue (Nat.digitChar n) = n :=
  Nat.toNat_digitChar_sub_48_of_lt_ten h

/-- The last digit comes off the end. -/
theorem natDigits_eq (n : Nat) :
    natDigits n = (if n < 10 then [] else natDigits (n / 10)) ++ [Nat.digitChar (n % 10)] := by
  unfold natDigits
  rw [Nat.toDigits_eq_if (by omega)]
  split
  · rename_i h
    rw [Nat.mod_eq_of_lt h, List.nil_append]
  · rfl

theorem isDigit_of_mem_natDigits {n : Nat} {c : Char} (h : c ∈ natDigits n) : isDigit c = true := by
  have := Nat.isDigit_of_mem_toDigits (by decide) (by decide) h
  simpa [isDigit, Char.isDigit, Char.le_def] using this

theorem natDigits_ne_nil (n : Nat) : natDigits n ≠ [] := by
  rw [natDigits_eq]
  simp

/-- Reading continues the number read so far. -/
theorem foldl_digits (init : Nat) (ds : List Char) :
    ds.foldl (fun n c => 10 * n + digitValue c) init = init * 10 ^ ds.length + ofDigits ds := by
  induction ds generalizing init with
  | nil => simp
  | cons d ds ih =>
    simp only [List.foldl_cons, ofDigits, List.length_cons] at ih ⊢
    rw [ih, ih (10 * 0 + digitValue d), Nat.pow_succ]
    ring

theorem ofDigits_append (a b : List Char) :
    ofDigits (a ++ b) = ofDigits a * 10 ^ b.length + ofDigits b := by
  rw [ofDigits, List.foldl_append, foldl_digits]
  rfl

theorem ofDigits_cons (d : Char) (ds : List Char) :
    ofDigits (d :: ds) = digitValue d * 10 ^ ds.length + ofDigits ds := by
  rw [← List.singleton_append, ofDigits_append]
  simp [ofDigits]

theorem ofDigits_replicate_zero (k : Nat) : ofDigits (List.replicate k '0') = 0 := by
  induction k with
  | zero => rfl
  | succ k ih =>
    rw [List.replicate_succ, ofDigits_cons, ih]
    simp [digitValue]

/-- Zeros in front of digits change nothing. -/
theorem ofDigits_zeros_append (k : Nat) (ds : List Char) :
    ofDigits (List.replicate k '0' ++ ds) = ofDigits ds := by
  rw [ofDigits_append, ofDigits_replicate_zero, Nat.zero_mul, Nat.zero_add]

theorem ofDigits_natDigits (n : Nat) : ofDigits (natDigits n) = n := by
  induction n using Nat.strongRecOn with
  | ind n ih =>
    rw [natDigits_eq, ofDigits_append]
    have hlast : ofDigits [Nat.digitChar (n % 10)] = n % 10 := by
      simp [ofDigits, digitValue_digitChar (Nat.mod_lt n (by decide : 10 > 0))]
    rw [hlast]
    split
    · rename_i h
      simp [ofDigits, Nat.mod_eq_of_lt h]
    · -- the digits before the last spell `n / 10`
      rename_i h
      rw [ih (n / 10) (by omega)]
      simp only [List.length_singleton, pow_one]
      omega

theorem ofDigits_padDigits (width n : Nat) : ofDigits (padDigits width n) = n := by
  rw [padDigits, ofDigits_zeros_append, ofDigits_natDigits]

/-- A number is below ten to the number of its digits. -/
theorem lt_pow_length_natDigits (n : Nat) : n < 10 ^ (natDigits n).length := by
  induction n using Nat.strongRecOn with
  | ind n ih =>
    rw [natDigits_eq]
    split
    · simpa using ‹n < 10›
    · have := ih (n / 10) (by omega)
      rw [List.length_append, List.length_singleton, Nat.pow_succ]
      omega

/-- A positive number is at least ten to the number of its digits less one. -/
theorem pow_length_natDigits_le {n : Nat} (hn : 0 < n) : 10 ^ ((natDigits n).length - 1) ≤ n := by
  induction n using Nat.strongRecOn with
  | ind n ih =>
    rw [natDigits_eq]
    split
    · simp only [List.nil_append, List.length_singleton, Nat.sub_self, Nat.pow_zero]
      omega
    · have := ih (n / 10) (by omega) (by omega)
      have hne := natDigits_ne_nil (n / 10)
      rw [List.length_append, List.length_singleton, Nat.add_sub_cancel]
      obtain ⟨k, hk⟩ : ∃ k, (natDigits (n / 10)).length = k + 1 :=
        ⟨_, (Nat.succ_pred_eq_of_pos (List.length_pos_iff.mpr hne)).symm⟩
      rw [hk, Nat.add_sub_cancel] at this
      rw [hk, Nat.pow_succ]
      omega

theorem length_padDigits (width n : Nat) :
    (padDigits width n).length = max width (natDigits n).length := by
  simp only [padDigits, List.length_append, List.length_replicate]
  omega

/-- A number below `10^k` has at most `k` digits. -/
theorem length_natDigits_le {n k : Nat} (hk : 1 ≤ k) (h : n < 10 ^ k) :
    (natDigits n).length ≤ k := by
  rcases Nat.eq_zero_or_pos n with rfl | hn
  · simp [natDigits_eq]
    omega
  · have hle : 10 ^ ((natDigits n).length - 1) < 10 ^ k :=
      Nat.lt_of_le_of_lt (pow_length_natDigits_le hn) h
    have := (Nat.pow_lt_pow_iff_right (by decide : 1 < 10)).mp hle
    omega

/-- A number below `10^k` padded to `k` places has exactly `k` digits. -/
theorem length_padDigits_of_lt {n k : Nat} (hk : 1 ≤ k) (h : n < 10 ^ k) :
    (padDigits k n).length = k := by
  rw [length_padDigits]
  have := length_natDigits_le hk h
  omega

theorem padDigits_ne_nil (width n : Nat) : padDigits width n ≠ [] :=
  List.append_ne_nil_of_right_ne_nil _ (natDigits_ne_nil n)

theorem isDigit_of_mem_padDigits {width n : Nat} {c : Char} (h : c ∈ padDigits width n) :
    isDigit c = true := by
  rcases List.mem_append.mp h with h | h
  · rw [List.eq_of_mem_replicate h]
    rfl
  · exact isDigit_of_mem_natDigits h

/-- Splitting after the digits in front of a character that is not a digit. -/
theorem spanDigits_append {ds rest : List Char} (hds : ∀ c ∈ ds, isDigit c = true)
    (hrest : ∀ c ∈ rest.head?, isDigit c = false) : spanDigits (ds ++ rest) = (ds, rest) := by
  simp only [spanDigits, Prod.mk.injEq]
  constructor
  · rw [List.takeWhile_append_of_pos hds]
    cases rest with
    | nil => simp
    | cons c r =>
      have hc : isDigit c = false := hrest c rfl
      simp [hc]
  · rw [List.dropWhile_append_of_pos hds]
    cases rest with
    | nil => simp
    | cons c r =>
      have hc : isDigit c = false := hrest c rfl
      simp [hc]

/-- A list is its digits in front followed by the rest, which does not start with a digit. -/
theorem spanDigits_spec (cs : List Char) :
    cs = (spanDigits cs).1 ++ (spanDigits cs).2 ∧
      (∀ c ∈ (spanDigits cs).1, isDigit c = true) ∧
      ∀ c ∈ (spanDigits cs).2.head?, isDigit c = false := by
  refine ⟨List.takeWhile_append_dropWhile.symm, List.all_eq_true.mp List.all_takeWhile, ?_⟩
  intro c hc
  have h := List.head?_dropWhile_not isDigit cs
  rw [show (List.dropWhile isDigit cs).head? = some c from hc] at h
  exact h

/-- The digits in front are the only split into digits and a rest that does not start with
one. -/
theorem spanDigits_eq_iff {cs ds rest : List Char} :
    spanDigits cs = (ds, rest) ↔
      cs = ds ++ rest ∧ (∀ c ∈ ds, isDigit c = true) ∧
        ∀ c ∈ rest.head?, isDigit c = false := by
  constructor
  · intro h
    have hspec := spanDigits_spec cs
    rwa [h] at hspec
  · rintro ⟨rfl, hds, hrest⟩
    exact spanDigits_append hds hrest

end Decimal

namespace Int128

/-- Digits with no sign in front are read as their number. -/
theorem read?_digits {ds : List Char} (hne : ds ≠ []) (hall : ∀ c ∈ ds, Decimal.isDigit c = true) :
    read? ds = ofInt? (Decimal.ofDigits ds) := by
  have hall' : ds.all Decimal.isDigit = true := List.all_eq_true.mpr hall
  have hne' : ds.isEmpty = false := List.isEmpty_eq_false_iff.mpr hne
  unfold read?
  split
  rename_i neg ds' hsign
  -- a digit is no sign, so the digits are read as they are
  split at hsign
  · simp [Decimal.isDigit] at hall
  · simp [Decimal.isDigit] at hall
  · obtain ⟨rfl, rfl⟩ := Prod.mk.inj hsign.symm
    simp [hne', hall']

/-- Digits after a minus are read as the negated number. -/
theorem read?_minus_digits {ds : List Char} (hne : ds ≠ [])
    (hall : ∀ c ∈ ds, Decimal.isDigit c = true) :
    read? ('-' :: ds) = ofInt? (-(Decimal.ofDigits ds : Int)) := by
  have hall' : ds.all Decimal.isDigit = true := List.all_eq_true.mpr hall
  have hne' : ds.isEmpty = false := List.isEmpty_eq_false_iff.mpr hne
  simp [read?, hne', hall']

/-- The decimal text of an integer in range is read back as the integer. -/
theorem read?_toText (n : Int128) : read? n.toText.toList = some n := by
  have hdigits : ∀ c ∈ Decimal.natDigits n.val.natAbs, Decimal.isDigit c = true :=
    fun c hc => Decimal.isDigit_of_mem_natDigits hc
  have hne := Decimal.natDigits_ne_nil n.val.natAbs
  have hval : ofInt? n.val = some n := by
    unfold ofInt?
    rw [dif_pos ⟨n.min_le, n.lt_max⟩]
  rw [← hval]
  by_cases hneg : n.val < 0
  · have htext : n.toText.toList = '-' :: Decimal.natDigits n.val.natAbs := by
      simp [toText, Decimal.intText, hneg, Decimal.natText]
    rw [htext, read?_minus_digits hne hdigits, Decimal.ofDigits_natDigits]
    congr 1
    omega
  · have htext : n.toText.toList = Decimal.natDigits n.val.natAbs := by
      simp [toText, Decimal.intText, hneg, Decimal.natText]
    rw [htext, read?_digits hne hdigits, Decimal.ofDigits_natDigits]
    congr 1
    omega

end Int128

end RecordQuery
