import RecordQuery.Value.Basic
import RecordQuery.Proofs.Text.Trim
import RecordQuery.Proofs.Number.Digits

/-!
# Natural texts have no blanks at their ends

Encoding writes a filter's value as its natural text when the filter keeps no text, and
decoding keeps the trimmed text it reads back. The two agree when the natural text is its
own trim. For a text value that is a condition on the text; for every other value it always
holds: scalars are written with digits, signs, points, colons, hex digits and a few letters,
none of them blank (`noBlank_scalarText`), and arrays start and end with brackets
(`endsNotBlank_toText`).
-/

namespace RecordQuery

namespace Text

/-- No character of the list is blank. -/
def NoBlank (cs : List Char) : Prop := ∀ c ∈ cs, isBlank c = false

instance : DecidablePred NoBlank := fun cs =>
  decidable_of_iff (cs.all fun c => !isBlank c) (by simp [NoBlank])

@[simp] theorem noBlank_nil : NoBlank [] := fun _ h => absurd h List.not_mem_nil

@[simp] theorem noBlank_cons {c : Char} {cs : List Char} :
    NoBlank (c :: cs) ↔ isBlank c = false ∧ NoBlank cs := by
  simp [NoBlank]

@[simp] theorem noBlank_append {xs ys : List Char} :
    NoBlank (xs ++ ys) ↔ NoBlank xs ∧ NoBlank ys := by
  simp only [NoBlank, List.mem_append]
  constructor
  · intro h
    exact ⟨fun c hc => h c (Or.inl hc), fun c hc => h c (Or.inr hc)⟩
  · rintro ⟨ha, hb⟩ c (hc | hc)
    · exact ha c hc
    · exact hb c hc

theorem NoBlank.sublist {xs ys : List Char} (h : NoBlank ys) (hs : xs.Sublist ys) : NoBlank xs :=
  fun c hc => h c (hs.subset hc)

theorem noBlank_replicate {c : Char} (hc : isBlank c = false) (n : Nat) :
    NoBlank (List.replicate n c) := by
  intro d hd
  rw [List.eq_of_mem_replicate hd]
  exact hc

/-- A list without blanks is its own trim. -/
theorem NoBlank.endsNotBlank {cs : List Char} (h : NoBlank cs) : EndsNotBlank cs :=
  trimChars_eq_self_iff.mp (trimChars_eq_self_of_forall h)

/-- The visible ASCII characters, `!` to `~`, are not blank. -/
theorem isBlank_of_visible {c : Char} (h1 : 0x21 ≤ c.toNat) (h2 : c.toNat < 0x7F) :
    isBlank c = false := by
  unfold isBlank
  simp
  omega

theorem isBlank_of_isDigit {c : Char} (h : Decimal.isDigit c = true) : isBlank c = false := by
  have hc := (Decimal.isDigit_iff c).mp h
  have h1 : 48 ≤ c.toNat := hc.1
  have h2 : c.toNat ≤ 57 := hc.2
  exact isBlank_of_visible (by omega) (by omega)

end Text

open Text

namespace Decimal

theorem noBlank_natDigits (n : Nat) : NoBlank (natDigits n) :=
  fun _ hc => isBlank_of_isDigit (isDigit_of_mem_natDigits hc)

theorem noBlank_padDigits (width n : Nat) : NoBlank (padDigits width n) := by
  simp [padDigits, noBlank_replicate (show isBlank '0' = false by decide), noBlank_natDigits]

theorem noBlank_intText (n : Int) : NoBlank (intText n).toList := by
  unfold intText natText
  split
  · simp only [String.toList_append, String.toList_ofList, noBlank_append, noBlank_natDigits,
      and_true]
    decide
  · rw [String.toList_ofList]
    exact noBlank_natDigits _

end Decimal

open Decimal

namespace FloatStyle

theorem noBlank_positional {ds : List Char} (h : NoBlank ds) (k : Int) :
    NoBlank (positional ds k) := by
  have h0 : isBlank '0' = false := by decide
  unfold positional
  split
  · simp +decide [h, noBlank_replicate h0]
  split
  · simp +decide only [noBlank_append, and_true]
    exact ⟨h.sublist (List.take_sublist _ _), h.sublist (List.drop_sublist _ _)⟩
  · simp +decide [h, noBlank_replicate h0]

theorem noBlank_scientific {ds : List Char} (h : NoBlank ds) (k : Int) :
    NoBlank (scientific ds k) := by
  unfold scientific
  simp only [noBlank_append, noBlank_intText, and_true]
  refine ⟨?_, by decide⟩
  -- the mantissa: the digits, with a point after the first when there are several
  match ds, h with
  | [], _ => decide
  | [d], h => exact h
  | d :: e :: rest, h =>
    simp only [noBlank_cons] at h ⊢
    exact ⟨h.1, by decide, h.2⟩

/-- A double is written without blanks, in every style whose spellings of NaN and infinity
have none. -/
theorem noBlank_render {st : FloatStyle} (hnan : NoBlank st.nanText.toList)
    (hinf : NoBlank st.infText.toList) (x : Binary64) : NoBlank (st.render x).toList := by
  have hsign : ∀ neg : Bool, NoBlank (if neg then "-" else "").toList := by
    intro neg
    cases neg <;> decide
  unfold render
  cases x.view with
  | nan => exact hnan
  | infinite neg => simpa only [String.toList_append, noBlank_append, hsign, true_and] using hinf
  | finite neg m q =>
    dsimp only
    by_cases hm : m = 0
    · rw [if_pos hm]
      simp only [String.toList_append, noBlank_append, hsign, true_and]
      decide
    · rw [if_neg hm]
      simp only [String.toList_append, noBlank_append, hsign, String.toList_ofList, true_and]
      split
      · exact noBlank_positional (noBlank_natDigits _) _
      · exact noBlank_scientific (noBlank_natDigits _) _

end FloatStyle

theorem Binary64.noBlank_toText (x : Binary64) : NoBlank x.toText.toList :=
  FloatStyle.noBlank_render (by decide) (by decide) x

theorem Uuid.noBlank_hexDigits (u : Uuid) : NoBlank u.hexDigits := by
  have hdigit : ∀ m : Fin 16, isBlank (Uuid.hexDigit m) = false := by decide
  intro c hc
  obtain ⟨i, -, rfl⟩ := List.mem_map.mp hc
  exact hdigit ⟨_, Nat.mod_lt _ (by decide)⟩

theorem Uuid.noBlank_toText (u : Uuid) : NoBlank u.toText.toList := by
  have h := u.noBlank_hexDigits
  simp only [Uuid.toText, String.toList_ofList, noBlank_append, h.sublist (List.take_sublist _ _),
    h.sublist (List.drop_sublist _ _), (h.sublist (List.drop_sublist _ _)).sublist
      (List.take_sublist _ _), and_true, true_and]
  decide

/-! ### The characters of the calendar and duration texts -/

theorem Decimal.isDigit_of_mem_padText {w n : Nat} {c : Char} (h : c ∈ (padText w n).toList) :
    isDigit c = true := by
  rw [padText, String.toList_ofList] at h
  exact isDigit_of_mem_padDigits h

/-- A duration is written with digits, its sign, the points after the days and before the
fraction, and the colons of the clock. -/
theorem Duration.mem_toText {d : Duration} {c : Char} (h : c ∈ d.toText.toList) :
    isDigit c = true ∨ c = '-' ∨ c = '.' ∨ c = ':' := by
  unfold Duration.toText at h
  simp only [String.toList_append, List.mem_append] at h
  rcases h with ((hs | hd) | ((((h1 | hc) | h2) | hc) | h3)) | hf
  · -- the sign
    split at hs
    · exact .inr (.inl (by simpa using hs))
    · simp at hs
  · -- the days, with the point after them
    split at hd
    · simp only [natText, String.toList_append, String.toList_ofList, List.mem_append] at hd
      rcases hd with hd | hd
      · exact .inl (isDigit_of_mem_natDigits hd)
      · exact .inr (.inr (.inl (by simpa using hd)))
    · simp at hd
  · exact .inl (isDigit_of_mem_padText h1)
  · exact .inr (.inr (.inr (by simpa using hc)))
  · exact .inl (isDigit_of_mem_padText h2)
  · exact .inr (.inr (.inr (by simpa using hc)))
  · exact .inl (isDigit_of_mem_padText h3)
  · -- the fraction: a point and the digits left after dropping the trailing zeros
    split at hf
    · simp at hf
    · simp only [String.toList_append, String.toList_ofList, List.mem_append] at hf
      rcases hf with hf | hf
      · exact .inr (.inr (.inl (by simpa using hf)))
      · exact .inl (isDigit_of_mem_padDigits
          (List.mem_reverse.mp ((List.dropWhile_suffix _).subset (List.mem_reverse.mp hf))))

/-- A year is written with four or more digits, signed when it has not four. -/
theorem Date.mem_yearText {y : Int} {c : Char} (h : c ∈ (Date.yearText y).toList) :
    isDigit c = true ∨ c = '-' ∨ c = '+' := by
  unfold Date.yearText at h
  split at h
  · exact .inl (isDigit_of_mem_padText h)
  · simp only [String.toList_append, List.mem_append] at h
    rcases h with hs | h
    · split at hs
      · exact .inr (.inl (by simpa using hs))
      · exact .inr (.inr (by simpa using hs))
    · exact .inl (isDigit_of_mem_padText h)

/-- A date is written with digits, the sign of its year and hyphens. -/
theorem Date.mem_toText {d : Date} {c : Char} (h : c ∈ d.toText.toList) :
    isDigit c = true ∨ c = '-' ∨ c = '+' := by
  unfold Date.toText at h
  simp only [String.toList_append, List.mem_append] at h
  rcases h with (((hy | hs) | hm) | hs) | hd
  · exact Date.mem_yearText hy
  · exact .inr (.inl (by simpa using hs))
  · exact .inl (isDigit_of_mem_padText hm)
  · exact .inr (.inl (by simpa using hs))
  · exact .inl (isDigit_of_mem_padText hd)

/-- A timestamp adds to its date the `T`, the colons of the clock and the point of the
fraction. -/
theorem Timestamp.mem_toText {t : Timestamp} {c : Char} (h : c ∈ t.toText.toList) :
    isDigit c = true ∨ c = '-' ∨ c = '+' ∨ c = 'T' ∨ c = ':' ∨ c = '.' := by
  unfold Timestamp.toText Timestamp.clockText at h
  simp only [String.toList_append, List.mem_append] at h
  rcases h with ((((((hd | hs) | hh) | hs) | hm) | hs) | hsec) | hf
  · rcases Date.mem_toText hd with h | h | h
    · exact .inl h
    · exact .inr (.inl h)
    · exact .inr (.inr (.inl h))
  · exact .inr (.inr (.inr (.inl (by simpa using hs))))
  · exact .inl (isDigit_of_mem_padText hh)
  · exact .inr (.inr (.inr (.inr (.inl (by simpa using hs)))))
  · exact .inl (isDigit_of_mem_padText hm)
  · exact .inr (.inr (.inr (.inr (.inl (by simpa using hs)))))
  · exact .inl (isDigit_of_mem_padText hsec)
  · -- the fraction: nothing, or a point and 3, 6 or 9 digits
    unfold Timestamp.autoFraction at hf
    repeat' split at hf
    · simp at hf
    all_goals
      simp only [String.toList_append, List.mem_append] at hf
      rcases hf with hp | hf
      · exact .inr (.inr (.inr (.inr (.inr (by simpa using hp)))))
      · exact .inl (isDigit_of_mem_padText hf)

theorem Duration.noBlank_toText (d : Duration) : NoBlank d.toText.toList := by
  intro c hc
  rcases Duration.mem_toText hc with h | rfl | rfl | rfl
  · exact isBlank_of_isDigit h
  all_goals decide

theorem Date.noBlank_toText (d : Date) : NoBlank d.toText.toList := by
  intro c hc
  rcases Date.mem_toText hc with h | rfl | rfl
  · exact isBlank_of_isDigit h
  all_goals decide

theorem Timestamp.noBlank_toText (t : Timestamp) : NoBlank t.toText.toList := by
  intro c hc
  rcases Timestamp.mem_toText hc with h | rfl | rfl | rfl | rfl | rfl
  · exact isBlank_of_isDigit h
  all_goals decide

namespace Value

/-- The text of every scalar but a text has no blanks. -/
theorem noBlank_scalarText {v : Value} (hv : ∀ s, v ≠ .text s) : NoBlank v.scalarText.toList := by
  cases v with
  | integer n => exact noBlank_intText n.val
  | float x => exact x.noBlank_toText
  | boolean b => cases b <;> decide
  | uuid u => exact u.noBlank_toText
  | duration d => exact d.noBlank_toText
  | timestamp t => exact t.noBlank_toText
  | text s => exact absurd rfl (hv s)
  | array _ => exact noBlank_nil

/-- The natural text of a value that is not a text is its own trim. -/
theorem endsNotBlank_toText {v : Value} (hv : ∀ s, v ≠ .text s) : EndsNotBlank v.toText.toList := by
  cases v with
  | array items =>
    -- an array is written between brackets
    rw [toText]
    simp only [String.toList_append]
    refine ⟨fun c hc => ?_, fun c hc => ?_⟩
    · simp only [List.append_assoc, List.head?_append] at hc
      cases hc
      decide
    · simp only [List.getLast?_append] at hc
      cases hc
      decide
  | text s => exact absurd rfl (hv s)
  | _ => exact (noBlank_scalarText hv).endsNotBlank

end Value

end RecordQuery
