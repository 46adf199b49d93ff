import Mathlib.Data.List.DropRight
import RecordQuery.Text.Chars

/-!
# Trimming

Every reader trims its input, and decoding trims field names, sort keys and value texts.
This file says what trimming does to a character list: it keeps exactly the part between the
first and the last character that is not blank. So a list is its own trim exactly when its
two ends are not blank (`trimChars_eq_self_iff`), trimming twice is trimming once, and every
list is its trim with blanks on either side (`eq_blank_append_trimChars_append_blank`).

`trimEnd` is Mathlib's `List.rdropWhile`, which brings that file's lemmas.
-/

namespace RecordQuery

namespace Text

/-- The first and the last character of a list are not blank; true of the empty list. -/
def EndsNotBlank (cs : List Char) : Prop :=
  (∀ c ∈ cs.head?, isBlank c = false) ∧ ∀ c ∈ cs.getLast?, isBlank c = false

theorem trimEnd_eq_rdropWhile (cs : List Char) : trimEnd cs = cs.rdropWhile isBlank := rfl

/-- A list that does not start with a blank is not changed by `trimStart`. -/
theorem trimStart_eq_self {cs : List Char} (h : ∀ c ∈ cs.head?, isBlank c = false) :
    trimStart cs = cs := by
  cases cs with
  | nil => rfl
  | cons c rest =>
    have hc : isBlank c = false := h c rfl
    simp [trimStart, hc]

/-- A list that does not end with a blank is not changed by `trimEnd`. -/
theorem trimEnd_eq_self {cs : List Char} (h : ∀ c ∈ cs.getLast?, isBlank c = false) :
    trimEnd cs = cs := by
  rw [trimEnd_eq_rdropWhile, List.rdropWhile_eq_self_iff]
  intro hne
  have hc := h (cs.getLast hne) (List.getLast?_eq_some_getLast hne)
  simp [hc]

theorem head?_trimStart (cs : List Char) : ∀ c ∈ (trimStart cs).head?, isBlank c = false := by
  intro c hc
  have h := List.head?_dropWhile_not isBlank cs
  rw [Option.mem_def] at hc
  simp only [trimStart] at hc
  rw [hc] at h
  exact h

theorem getLast?_trimEnd (cs : List Char) : ∀ c ∈ (trimEnd cs).getLast?, isBlank c = false := by
  rw [trimEnd, List.getLast?_reverse]
  exact head?_trimStart cs.reverse

/-- Cutting blanks off the end keeps a first character that is not blank. -/
theorem head?_trimEnd_of {cs : List Char} (h : ∀ c ∈ cs.head?, isBlank c = false) :
    ∀ c ∈ (trimEnd cs).head?, isBlank c = false := by
  intro c hc
  obtain ⟨t, ht⟩ := (List.rdropWhile_prefix (p := isBlank) (l := cs))
  rw [← trimEnd_eq_rdropWhile] at ht
  rw [Option.mem_def] at hc
  apply h c
  rw [← ht, List.head?_append, hc]
  rfl

theorem trimChars_endsNotBlank (cs : List Char) : EndsNotBlank (trimChars cs) :=
  ⟨head?_trimEnd_of (head?_trimStart cs), getLast?_trimEnd _⟩

/-- A list is its own trim exactly when its ends are not blank. -/
theorem trimChars_eq_self_iff {cs : List Char} : trimChars cs = cs ↔ EndsNotBlank cs := by
  constructor
  · intro h
    rw [← h]
    exact trimChars_endsNotBlank cs
  · rintro ⟨hh, hl⟩
    rw [trimChars, trimStart_eq_self hh, trimEnd_eq_self hl]

@[simp] theorem trimChars_trimChars (cs : List Char) : trimChars (trimChars cs) = trimChars cs :=
  trimChars_eq_self_iff.mpr (trimChars_endsNotBlank cs)

@[simp] theorem trim_trim (s : String) : trim (trim s) = trim s := by
  simp [trim]

theorem trim_eq_self_iff {s : String} : trim s = s ↔ trimChars s.toList = s.toList := by
  rw [trim, ← String.toList_inj, String.toList_ofList]

/-- A list without blanks is its own trim. -/
theorem trimChars_eq_self_of_forall {cs : List Char} (h : ∀ c ∈ cs, isBlank c = false) :
    trimChars cs = cs := by
  refine trimChars_eq_self_iff.mpr ⟨fun c hc => h c ?_, fun c hc => h c ?_⟩
  · exact List.mem_of_mem_head? hc
  · exact List.mem_of_mem_getLast? hc

/-- A character that is not blank, put in front of a list whose ends are not blank, keeps
the ends not blank. -/
theorem EndsNotBlank.cons {c : Char} {cs : List Char} (hc : isBlank c = false)
    (h : EndsNotBlank cs) : EndsNotBlank (c :: cs) := by
  refine ⟨fun d hd => ?_, fun d hd => ?_⟩
  · cases hd
    exact hc
  · cases cs with
    | nil =>
      cases hd
      exact hc
    | cons e rest =>
      rw [List.getLast?_cons_cons] at hd
      exact h.2 d hd

/-- Every list is its trim with blanks on either side. -/
theorem eq_blank_append_trimChars_append_blank (cs : List Char) :
    ∃ lead trail, (∀ c ∈ lead, isBlank c = true) ∧ (∀ c ∈ trail, isBlank c = true) ∧
      cs = lead ++ trimChars cs ++ trail := by
  refine ⟨cs.takeWhile isBlank, (trimStart cs).rtakeWhile isBlank, ?_, ?_, ?_⟩
  · intro c hc
    exact List.mem_takeWhile_imp hc
  · intro c hc
    exact List.mem_rtakeWhile_imp hc
  · rw [List.append_assoc, trimChars, trimEnd_eq_rdropWhile, List.rdropWhile_append_rtakeWhile]
    exact (List.takeWhile_append_dropWhile).symm

end Text

end RecordQuery
