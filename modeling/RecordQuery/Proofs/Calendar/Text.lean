import RecordQuery.Calendar.Read
import RecordQuery.Proofs.Number.Digits
import RecordQuery.Proofs.Value.Print

/-!
# Reading the text of a timestamp

A timestamp is written `YYYY-MM-DDTHH:MM:SS` with its fraction (`Timestamp.toText`), and the
reader tries RFC 3339 first and the pattern `YYYY-MM-DDTHH:MM:SS[.F]` next. The text names
no zone, so RFC 3339 never accepts it (`Calendar.readRfc3339?_toText`); the pattern reads
every field back (`Calendar.readFields_isoPattern_toText`). Hence the text of a timestamp
that names a real instant (`Timestamp.Valid`) is read back as the timestamp
(`Timestamp.read?_toText`).

The fields are read by small scanners, each of which reads a number written with as many
digits as it takes and stops at the first character that is not a digit
(`Calendar.scanNumber_append`); a year is read with its sign when it has one
(`Calendar.scanYear_yearText`), and the fraction with three, six or nine digits
(`Calendar.step_autoFraction`).

Every reader starts with the year, so a text that starts with neither a digit nor a sign is
no timestamp (`Timestamp.read?_eq_none_of_head`).
-/

namespace RecordQuery

namespace Date

theorem daysInMonth_le (y : Int) (m : Nat) : daysInMonth y m ≤ 31 := by
  unfold daysInMonth
  repeat' split
  all_goals omega

/-- The parts of a valid date lie within their ranges. -/
theorem bounds_of_isValid {d : Date} (h : d.isValid = true) :
    minYear ≤ d.year ∧ d.year ≤ maxYear ∧ 1 ≤ d.month ∧ d.month ≤ 12 ∧ 1 ≤ d.day ∧
      d.day ≤ 31 := by
  simp only [isValid, Bool.and_eq_true, decide_eq_true_eq] at h
  have := daysInMonth_le d.year d.month
  omega

theorem ofYmd?_of_isValid {d : Date} (h : d.isValid = true) :
    ofYmd? d.year d.month d.day = some d := by
  simp [ofYmd?, h]

theorem noBlank_yearText (y : Int) : Text.NoBlank (yearText y).toList := by
  intro c hc
  rcases mem_yearText hc with h | rfl | rfl
  · exact Text.isBlank_of_isDigit h
  all_goals decide

theorem yearText_ne_nil (y : Int) : (yearText y).toList ≠ [] := by
  unfold yearText
  split
  · rw [Decimal.padText, String.toList_ofList]
    exact Decimal.padDigits_ne_nil _ _
  · simp only [String.toList_append, Decimal.padText, String.toList_ofList]
    exact List.append_ne_nil_of_right_ne_nil _ (Decimal.padDigits_ne_nil _ _)

end Date

namespace Timestamp

/-- A timestamp that names a real instant: a valid date, a time of day in which a leap second
is second `60`, and less than a second of nanoseconds. -/
structure Valid (t : Timestamp) : Prop where
  date : t.date.isValid = true
  hour : t.hour < 24
  minute : t.minute < 60
  second : t.second ≤ 60
  nano : t.nano < 1000000000

/-- The fraction of a timestamp's text does not start with a digit. -/
theorem head_autoFraction (nano : Nat) :
    ∀ c ∈ (autoFraction nano).toList.head?, Decimal.isDigit c = false := by
  unfold autoFraction
  repeat' split
  all_goals simp [Decimal.isDigit]

/-- The fraction of a timestamp's text is nothing, or a point and at most nine digits. -/
theorem autoFraction_eq (nano : Nat) (hn : nano < 1000000000) :
    (autoFraction nano).toList = [] ∨ ∃ k v, 1 ≤ k ∧ k ≤ 9 ∧ v < 10 ^ k ∧
      (autoFraction nano).toList = '.' :: Decimal.padDigits k v := by
  unfold autoFraction
  split
  · exact .inl rfl
  · split
    · exact .inr ⟨3, nano / 1000000, by decide, by decide, by omega, by simp [Decimal.padText]⟩
    · split
      · exact .inr ⟨6, nano / 1000, by decide, by decide, by omega, by simp [Decimal.padText]⟩
      · exact .inr ⟨9, nano, by decide, by decide, by omega, by simp [Decimal.padText]⟩

theorem toText_toList (t : Timestamp) :
    t.toText.toList =
      (Date.yearText t.date.year).toList ++ '-' :: (Decimal.padDigits 2 t.date.month ++ '-' ::
        (Decimal.padDigits 2 t.date.day ++ 'T' :: (Decimal.padDigits 2 t.hour ++ ':' ::
          (Decimal.padDigits 2 t.minute ++ ':' :: (Decimal.padDigits 2 t.second ++
            (autoFraction t.nano).toList))))) := by
  simp [toText, clockText, Date.toText, Decimal.padText]

end Timestamp

namespace Calendar

open Decimal

/-- Text after a first part without blanks keeps its front when blanks are trimmed. -/
theorem trimStart_append_of_noBlank {a : List Char} (ha : a ≠ []) (h : Text.NoBlank a)
    (rest : List Char) : Text.trimStart (a ++ rest) = a ++ rest :=
  Text.trimStart_eq_self fun c hc => by
    rw [List.head?_append_of_ne_nil _ ha] at hc
    exact h c (List.mem_of_mem_head? hc)

theorem le_fieldLimit {n : Nat} (h : n < 2147483648) : n ≤ fieldLimit := by
  have : 2147483648 ≤ fieldLimit := by decide
  omega

/-- Digits in front of a character that is not a digit are read as their number, when there
are as many as the reader takes and the number is small enough. -/
theorem scanNumber_append {ds rest : List Char} (hds : ∀ c ∈ ds, isDigit c = true)
    (hrest : ∀ c ∈ rest.head?, isDigit c = false) {lo hi : Nat} (hlo : lo ≤ ds.length)
    (hhi : ds.length ≤ hi) (hv : ofDigits ds ≤ fieldLimit) :
    scanNumber (ds ++ rest) lo hi = some (ofDigits ds, rest) := by
  have hspan := spanDigits_append hds hrest
  simp only [spanDigits, Prod.mk.injEq] at hspan
  simp [scanNumber, hspan.1, List.take_of_length_le hhi, Nat.not_lt.mpr hlo, Nat.not_lt.mpr hv]

/-- A number written with `w` digits, `w` within the bounds of the reader. -/
theorem scanNumber_padDigits {w n : Nat} (hw : 1 ≤ w) (hn : n < 10 ^ w) (hfit : n ≤ fieldLimit)
    {rest : List Char} (hrest : ∀ c ∈ rest.head?, isDigit c = false) {lo hi : Nat}
    (hlo : lo ≤ w) (hhi : w ≤ hi) :
    scanNumber (padDigits w n ++ rest) lo hi = some (n, rest) := by
  have hlen := length_padDigits_of_lt hw hn
  have hlo' : lo ≤ (padDigits w n).length := by rw [hlen]; exact hlo
  have hhi' : (padDigits w n).length ≤ hi := by rw [hlen]; exact hhi
  have h := scanNumber_append (fun c hc => isDigit_of_mem_padDigits hc) hrest hlo' hhi'
    (by rwa [ofDigits_padDigits])
  rwa [ofDigits_padDigits] at h

/-- A two-digit field in range, followed by text that does not start with a digit. -/
theorem scanField_padDigits {n lo hi : Nat} (hn : n < 100) (hlo : lo ≤ n) (hhi : n ≤ hi)
    {rest : List Char} (hrest : ∀ c ∈ rest.head?, isDigit c = false) :
    scanField (padDigits 2 n ++ rest) 2 lo hi = some (n, rest) := by
  have h := scanNumber_padDigits (by decide) (show n < 10 ^ 2 by omega)
    (le_fieldLimit (by omega)) hrest (by decide : 1 ≤ 2) le_rfl
  simp [scanField, h, hlo, hhi]

/-- The same field read with its exact width. -/
theorem scanExactField_padDigits {n lo hi : Nat} (hn : n < 100) (hlo : lo ≤ n) (hhi : n ≤ hi)
    {rest : List Char} (hrest : ∀ c ∈ rest.head?, isDigit c = false) :
    scanExactField (padDigits 2 n ++ rest) 2 lo hi = some (n, rest) := by
  have h := scanNumber_padDigits (by decide) (show n < 10 ^ 2 by omega)
    (le_fieldLimit (by omega)) hrest (le_refl 2) (le_refl 2)
  simp [scanExactField, scanExact, h, hlo, hhi]

theorem yearFits_iff {y : Int} : yearFits y = true ↔ -2147483648 ≤ y ∧ y < 2147483648 := by
  simp [yearFits]

/-- The text of a year that fits is read back as the year, by the unsigned branch when it has
four digits and by the signed branch otherwise. -/
theorem scanYear_yearText {y : Int} (hy : -2147483648 < y ∧ y < 2147483648) {c : Char}
    (hc : isDigit c = false) (rest : List Char) :
    scanYear ((Date.yearText y).toList ++ c :: rest) = some (y, c :: rest) := by
  have hfits : yearFits y = true := yearFits_iff.mpr ⟨by omega, hy.2⟩
  have hrest : ∀ d ∈ (c :: rest).head?, isDigit d = false := by simpa using hc
  have habs : y.natAbs ≤ fieldLimit := le_fieldLimit (by omega)
  have hds : ∀ d ∈ padDigits 4 y.natAbs, isDigit d = true :=
    fun d hd => isDigit_of_mem_padDigits hd
  unfold Date.yearText
  split
  · rename_i hsmall
    simp only [Bool.and_eq_true, decide_eq_true_eq] at hsmall
    have hscan := scanNumber_padDigits (by decide) (show y.natAbs < 10 ^ 4 by omega) habs hrest
      (by decide : 1 ≤ 4) le_rfl
    -- the first digit is no sign
    obtain ⟨d, t, hdt⟩ := List.exists_cons_of_ne_nil (padDigits_ne_nil 4 y.natAbs)
    have hd : isDigit d = true := hds d (hdt ▸ List.mem_cons_self)
    have hd1 : d ≠ '-' := fun h => by subst h; exact absurd hd (by decide)
    have hd2 : d ≠ '+' := fun h => by subst h; exact absurd hd (by decide)
    rw [padText, String.toList_ofList, hdt, List.cons_append]
    rw [hdt, List.cons_append] at hscan
    have hy' : (y.natAbs : Int) = y := Int.natAbs_of_nonneg hsmall.1
    simp [scanYear, hd1, hd2, hscan, hy', hfits]
  · have hscan : scanNumber (padDigits 4 y.natAbs ++ c :: rest) 1
        (padDigits 4 y.natAbs ++ c :: rest).length = some (y.natAbs, c :: rest) := by
      have h := scanNumber_append hds hrest
        (List.length_pos_iff.mpr (padDigits_ne_nil 4 y.natAbs))
        (by simp : (padDigits 4 y.natAbs).length ≤ (padDigits 4 y.natAbs ++ c :: rest).length)
        (by rwa [ofDigits_padDigits])
      rwa [ofDigits_padDigits] at h
    rw [String.toList_append, padText, String.toList_ofList]
    simp only [List.length_append, List.length_cons] at hscan
    split
    -- name the magnitude, so that its cast is not rewritten on the way
    · have hy' : -((y.natAbs : Nat) : Int) = y := by omega
      generalize y.natAbs = v at hscan hy' ⊢
      rw [show "-".toList = ['-'] from rfl, List.singleton_append]
      simp [scanYear, hscan, hy', hfits]
    · have hy' : ((y.natAbs : Nat) : Int) = y := by omega
      generalize y.natAbs = v at hscan hy' ⊢
      rw [show "+".toList = ['+'] from rfl, List.singleton_append]
      simp [scanYear, hscan, hy', hfits]

/-- A fraction written with `k` digits, at most nine, is read as its nanoseconds. -/
theorem scanFraction_padDigits {k v : Nat} (hk : 1 ≤ k) (hk9 : k ≤ 9) (hv : v < 10 ^ k) :
    scanFraction (padDigits k v) = some (v * Nat.pow 10 (9 - k), []) := by
  have hpow : 10 ^ k ≤ 10 ^ 9 := Nat.pow_le_pow_right (by decide) hk9
  have hscan := scanNumber_padDigits hk hv (le_fieldLimit (by omega))
    (by simp : ∀ c ∈ ([] : List Char).head?, isDigit c = false) hk hk9
  rw [List.append_nil] at hscan
  simp [scanFraction, hscan, length_padDigits_of_lt hk hv]

/-- The fraction of a timestamp's text sets the nanoseconds when there are some. -/
theorem step_autoFraction (f : Fields) {nano : Nat} (hn : nano < 1000000000) :
    step f (Timestamp.autoFraction nano).toList .fraction =
      some (if nano = 0 then f else { f with nano := some nano }, []) := by
  unfold Timestamp.autoFraction
  split
  · simp [step]
  · split
    · have h := scanFraction_padDigits (by decide) (by decide)
        (show nano / 1000000 < 10 ^ 3 by omega)
      have hv : nano / 1000000 * Nat.pow 10 (9 - 3) = nano := by
        simp only [Nat.pow_eq]
        omega
      simp [step, padText, h, hv]
    · split
      · have h := scanFraction_padDigits (by decide) (by decide)
          (show nano / 1000 < 10 ^ 6 by omega)
        have hv : nano / 1000 * Nat.pow 10 (9 - 6) = nano := by
          simp only [Nat.pow_eq]
          omega
        simp [step, padText, h, hv]
      · have h := scanFraction_padDigits (by decide) (by decide) (show nano < 10 ^ 9 by omega)
        simp [step, padText, h]

/-- The separators of a timestamp's text are no digits, so each ends the field before it. -/
theorem separator_not_digit {c : Char} (hc : c ∈ ['-', 'T', ':']) (rest : List Char) :
    ∀ d ∈ (c :: rest).head?, isDigit d = false := by
  intro d hd
  rw [List.head?_cons, Option.mem_def, Option.some.injEq] at hd
  subst hd
  simp only [List.mem_cons, List.not_mem_nil, or_false] at hc
  rcases hc with rfl | rfl | rfl <;> decide

/-- The pattern `YYYY-MM-DDTHH:MM:SS[.F]` reads every field of a timestamp's text. -/
theorem readFields_isoPattern_toText {t : Timestamp} (ht : t.Valid) :
    readFields isoPattern t.toText.toList =
      some ⟨some t.date.year, some t.date.month, some t.date.day, some t.hour, some t.minute,
        some t.second, if t.nano = 0 then none else some t.nano⟩ := by
  obtain ⟨hy1, hy2, hm1, hm2, hd1, hd2⟩ := Date.bounds_of_isValid ht.date
  have hh := ht.hour
  have hmi := ht.minute
  have hyear : ∀ rest, scanYear ((Date.yearText t.date.year).toList ++ '-' :: rest) =
      some (t.date.year, '-' :: rest) :=
    scanYear_yearText (by simp [Date.minYear, Date.maxYear] at hy1 hy2; omega) (by decide)
  have hmonth : ∀ rest, scanField (padDigits 2 t.date.month ++ '-' :: rest) 2 1 12 =
      some (t.date.month, '-' :: rest) := fun rest =>
    scanField_padDigits (by omega) hm1 hm2 (separator_not_digit (by simp) rest)
  have hday : ∀ rest, scanField (padDigits 2 t.date.day ++ 'T' :: rest) 2 1 31 =
      some (t.date.day, 'T' :: rest) := fun rest =>
    scanField_padDigits (by omega) hd1 hd2 (separator_not_digit (by simp) rest)
  have hhour : ∀ rest, scanField (padDigits 2 t.hour ++ ':' :: rest) 2 0 23 =
      some (t.hour, ':' :: rest) := fun rest =>
    scanField_padDigits (by omega) (Nat.zero_le _) (by omega) (separator_not_digit (by simp) rest)
  have hminute : ∀ rest, scanField (padDigits 2 t.minute ++ ':' :: rest) 2 0 59 =
      some (t.minute, ':' :: rest) := fun rest =>
    scanField_padDigits (by omega) (Nat.zero_le _) (by omega) (separator_not_digit (by simp) rest)
  have hsecond := @scanField_padDigits t.second 0 60 (by have := ht.second; omega)
    (Nat.zero_le _) ht.second _ (Timestamp.head_autoFraction t.nano)
  have htrim : ∀ a, a ≠ [] → Text.NoBlank a → ∀ rest, Text.trimStart (a ++ rest) = a ++ rest :=
    fun _ ha hb => trimStart_append_of_noBlank ha hb
  -- every item up to the seconds reads its field and leaves the fraction
  have hclock : (isoPattern.take 11).foldlM (fun acc item => step acc.1 acc.2 item)
      (({} : Fields), t.toText.toList) =
      some (⟨some t.date.year, some t.date.month, some t.date.day, some t.hour, some t.minute,
        some t.second, none⟩, (Timestamp.autoFraction t.nano).toList) := by
    rw [Timestamp.toText_toList]
    simp [isoPattern, step, htrim _ (padDigits_ne_nil _ _) (noBlank_padDigits _ _),
      htrim _ (Date.yearText_ne_nil _) (Date.noBlank_yearText _), hyear, hmonth, hday, hhour,
      hminute, hsecond]
  rw [readFields, show isoPattern = isoPattern.take 11 ++ [.fraction] from rfl,
    List.foldlM_append, hclock]
  simp [step_autoFraction _ ht.nano]
  split <;> rfl

/-- A timestamp's text names no zone, so it is no RFC 3339 text: its fields are read as far as
the end of the text, where a zone would have to follow. -/
theorem readRfc3339?_toText {t : Timestamp} (ht : t.Valid) :
    readRfc3339? t.toText.toList = none := by
  obtain ⟨hy1, hy2, hm1, hm2, hd1, hd2⟩ := Date.bounds_of_isValid ht.date
  have hh := ht.hour
  have hmi := ht.minute
  have hmonth : ∀ rest, scanExactField (padDigits 2 t.date.month ++ '-' :: rest) 2 1 12 =
      some (t.date.month, '-' :: rest) := fun rest =>
    scanExactField_padDigits (by omega) hm1 hm2 (separator_not_digit (by simp) rest)
  have hday : ∀ rest, scanExactField (padDigits 2 t.date.day ++ 'T' :: rest) 2 1 31 =
      some (t.date.day, 'T' :: rest) := fun rest =>
    scanExactField_padDigits (by omega) hd1 hd2 (separator_not_digit (by simp) rest)
  have hhour : ∀ rest, scanExactField (padDigits 2 t.hour ++ ':' :: rest) 2 0 23 =
      some (t.hour, ':' :: rest) := fun rest =>
    scanExactField_padDigits (by omega) (Nat.zero_le _) (by omega) (separator_not_digit (by simp) rest)
  have hminute : ∀ rest, scanExactField (padDigits 2 t.minute ++ ':' :: rest) 2 0 59 =
      some (t.minute, ':' :: rest) := fun rest =>
    scanExactField_padDigits (by omega) (Nat.zero_le _) (by omega) (separator_not_digit (by simp) rest)
  have hsecond := @scanExactField_padDigits t.second 0 60 (by have := ht.second; omega)
    (Nat.zero_le _) ht.second _ (Timestamp.head_autoFraction t.nano)
  rw [Timestamp.toText_toList]
  unfold Date.yearText
  split
  · rename_i hsmall
    simp only [Bool.and_eq_true, decide_eq_true_eq] at hsmall
    have hyear : ∀ rest, scanNumber (padDigits 4 t.date.year.natAbs ++ '-' :: rest) 4 4 =
        some (t.date.year.natAbs, '-' :: rest) := fun rest =>
      scanNumber_padDigits (by decide) (show t.date.year.natAbs < 10 ^ 4 by omega)
        (le_fieldLimit (by omega)) (separator_not_digit (by simp) rest) (le_refl 4) (le_refl 4)
    -- the reader is one chain of binds, taken apart one field at a time
    simp only [readRfc3339?, Decimal.padText, String.toList_ofList]
    rw [show scanExact _ 4 = _ from hyear _, Option.bind_eq_bind, Option.bind_some]
    simp only [expect, ↓reduceIte]
    rw [Option.bind_eq_bind, Option.bind_some, hmonth]
    simp only [Option.bind_some, ↓reduceIte, hday, hhour, hminute, hsecond, decide_true,
      Bool.true_or]
    rcases Timestamp.autoFraction_eq t.nano ht.nano with h0 | ⟨k, v, hk, hk9, hv, hfrac⟩
    · simp [h0, scanZone]
    · simp [hfrac, scanFraction_padDigits hk hk9 hv, scanZone]
  · -- a signed year is not four digits
    have hyear : ∀ rest, scanExact ((if t.date.year < 0 then "-" else "+").toList ++ rest) 4 =
        none := by
      intro rest
      split <;> simp [scanExact, scanNumber, isDigit]
    simp only [readRfc3339?, String.toList_append, List.append_assoc]
    rw [hyear, Option.bind_eq_bind, Option.bind_none]

/-- A text that starts with neither a digit nor a sign has no year. -/
theorem scanYear_eq_none {cs : List Char}
    (h : ∀ c ∈ cs.head?, isDigit c = false ∧ c ≠ '-' ∧ c ≠ '+') : scanYear cs = none := by
  match cs, h with
  | [], _ => rfl
  | c :: r, h =>
    obtain ⟨hd, hm, hp⟩ := h c rfl
    simp [scanYear, scanNumber, hd, hm, hp]

/-- Nor is it read by any pattern, each of which starts with the year. -/
theorem readFields_year_eq_none {cs : List Char}
    (h : ∀ c ∈ cs.head?, isDigit c = false ∧ c ≠ '-' ∧ c ≠ '+')
    (hb : ∀ c ∈ cs.head?, Text.isBlank c = false) (items : List PatternItem) :
    readFields (.year :: items) cs = none := by
  simp [readFields, step, Text.trimStart_eq_self hb, scanYear_eq_none h]

end Calendar

namespace Timestamp

/-- The fields of a timestamp's text are the timestamp. -/
theorem timestamp?_fields {t : Timestamp} (ht : t.Valid) :
    Calendar.Fields.timestamp? ⟨some t.date.year, some t.date.month, some t.date.day, some t.hour,
      some t.minute, some t.second, if t.nano = 0 then none else some t.nano⟩ = some t := by
  have hnano : (if t.nano = 0 then none else some t.nano).getD 0 = t.nano := by
    split <;> simp_all
  simp [Calendar.Fields.timestamp?, Calendar.Fields.date?, Date.ofYmd?_of_isValid ht.date, hnano]

/-- The text of a valid timestamp is read back as the timestamp. -/
theorem read?_toText {t : Timestamp} (ht : t.Valid) : read? t.toText.toList = some t := by
  simp [read?, Text.trimChars_eq_self_of_forall (noBlank_toText t),
    Calendar.readRfc3339?_toText ht, Calendar.readFields_isoPattern_toText ht, timestamp?_fields ht]

/-- A text that starts, once trimmed, with neither a digit nor a sign is no timestamp. -/
theorem read?_eq_none_of_head {cs : List Char}
    (h : ∀ c ∈ (Text.trimChars cs).head?, Decimal.isDigit c = false ∧ c ≠ '-' ∧ c ≠ '+') :
    read? cs = none := by
  have hb : ∀ c ∈ (Text.trimChars cs).head?, Text.isBlank c = false :=
    (Text.trimChars_endsNotBlank cs).1
  have hrfc : Calendar.readRfc3339? (Text.trimChars cs) = none := by
    have hscan : Calendar.scanExact (Text.trimChars cs) 4 = none := by
      cases hcs : Text.trimChars cs with
      | nil => rfl
      | cons c r =>
        rw [hcs] at h
        simp [Calendar.scanExact, Calendar.scanNumber, (h c rfl).1]
    simp only [Calendar.readRfc3339?]
    rw [hscan, Option.bind_eq_bind, Option.bind_none]
  simp [read?, hrfc, Date.read?, Calendar.isoPattern, Calendar.spacedPattern,
    Calendar.isoMinutePattern, Calendar.spacedMinutePattern, Calendar.datePattern,
    Calendar.readFields_year_eq_none h hb]

end Timestamp

end RecordQuery
