import RecordQuery.Value.Parse
import RecordQuery.Proofs.Text.Trim

/-!
# What reading a value gives

Reading tries the readings in a fixed order and takes the first that accepts the text. Its
result is a text exactly when the text reading was taken (or nothing accepted), and then it
is the trimmed text (`Value.read_eq_text`); the array reading only ever gives arrays.

Every reading trims the text before looking at it, so reading a trimmed text gives what
reading the text gives (`Value.read_trim`): decoding keeps the trimmed text of a filter and
reads the text before trimming, and the two agree.
-/

namespace RecordQuery

namespace Reading

variable {α : Type}

/-- The reading that `firstOf` takes is one of the list, and it accepts with the value that
`firstOf` returns. -/
theorem firstOf_value_eq_some {rs : List Reading} {f : Reading → Logged (Option α)} {r : Reading}
    {a : α} (h : (firstOf rs f).value = some (r, a)) : r ∈ rs ∧ (f r).value = some a := by
  induction rs with
  | nil => cases h
  | cons r' rs ih =>
    rw [firstOf, Logged.value_bind] at h
    cases hr : (f r').value with
    | none =>
      simp only [hr] at h
      obtain ⟨hmem, hf⟩ := ih h
      exact ⟨List.mem_cons_of_mem r' hmem, hf⟩
    | some b =>
      simp only [hr, Logged.value_pure, Option.some.injEq, Prod.mk.injEq] at h
      obtain ⟨rfl, rfl⟩ := h
      exact ⟨List.mem_cons_self, hr⟩

end Reading

namespace Elements

theorem elements?_trimChars (cs : List Char) : elements? (Text.trimChars cs) = elements? cs := by
  simp only [elements?, Text.trimChars_trimChars]

end Elements

theorem Duration.read?_trimChars (cs : List Char) :
    Duration.read? (Text.trimChars cs) = Duration.read? cs := by
  simp only [Duration.read?, Text.trimChars_trimChars]

theorem Timestamp.read?_trimChars (cs : List Char) :
    Timestamp.read? (Text.trimChars cs) = Timestamp.read? cs := by
  simp only [Timestamp.read?, Text.trimChars_trimChars]

/-- Every scalar reading trims first. -/
theorem Reading.scalar?_trimChars (r : Reading) (cs : List Char) :
    r.scalar? (Text.trimChars cs) = r.scalar? cs := by
  cases r <;>
    simp only [scalar?, Text.trimChars_trimChars, Duration.read?_trimChars,
      Timestamp.read?_trimChars]

/-- The array reading gives an array or nothing. -/
theorem readArray_value_eq_some {cs : List Char} {v : Value} (h : (readArray cs).value = some v) :
    ∃ items, v = .array items := by
  rw [readArray] at h
  split at h
  · cases h
  · cases h
    exact ⟨[], rfl⟩
  · rw [Logged.value_bind] at h
    split at h
    · simp only [Logged.value_bind, Logged.value_pure, Option.some.injEq] at h
      exact ⟨_, h.symm⟩
    · cases h

/-- Reading an array depends on the text only through its elements. -/
theorem readArray_congr {cs ds : List Char} (h : Elements.elements? cs = Elements.elements? ds) :
    readArray cs = readArray ds := by
  rw [readArray, readArray]
  split <;> split <;> simp_all
  -- both texts have the same elements
  subst h
  rfl

theorem readArray_trimChars (cs : List Char) : readArray (Text.trimChars cs) = readArray cs :=
  readArray_congr (Elements.elements?_trimChars cs)

namespace Value

/-- A text is read as a text only by the text reading, which trims it. -/
theorem read_eq_text {s x : String} (h : read s = .text x) : x = Text.trim s := by
  unfold read readLogged at h
  rw [Logged.value_bind] at h
  split at h
  · rename_i r v hfound
    simp only [Logged.value_bind, Logged.value_pure] at h
    subst h
    obtain ⟨-, hf⟩ := Reading.firstOf_value_eq_some hfound
    cases r with
    | array =>
      obtain ⟨items, hitems⟩ := readArray_value_eq_some hf
      cases hitems
    | float =>
      simp only [Logged.value_pure, Reading.scalar?] at hf
      split at hf
      · split at hf <;> cases hf
      · cases hf
    | text =>
      simp only [Logged.value_pure, Reading.scalar?, Option.some.injEq, Value.text.injEq] at hf
      rw [← hf]
      rfl
    | _ => simp [Reading.scalar?] at hf
  · simp only [Logged.value_pure, Value.text.injEq] at h
    exact h.symm

/-- Reading the trimmed text gives what reading the text gives. -/
theorem read_trim (s : String) : read (Text.trim s) = read s := by
  unfold read readLogged
  -- each reading trims first, so both texts meet the same readings
  simp only [Text.trim, String.toList_ofList, readArray_trimChars, Reading.scalar?_trimChars,
    Text.trimChars_trimChars, Logged.value_bind]
  -- they differ only in the log line
  split
  · simp only [Logged.value_bind, Logged.value_pure]
  · simp only [Logged.value_pure]

end Value

end RecordQuery
