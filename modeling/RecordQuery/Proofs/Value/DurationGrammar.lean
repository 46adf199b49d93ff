import RecordQuery.Proofs.Value.ReadBack

/-!
# The texts that are read as durations

After its blanks are trimmed, a duration is written `[-][D.]H:M[:S[.F]]`: a minus for a
negative duration; the whole days `D`, one or more ASCII digits, and a point; the hours `H`
and the minutes `M`, one or two ASCII digits each; and perhaps the seconds `S`, one or two
digits, with a fraction `F` of one to nine digits. `Duration.Written` is such a text taken
apart, and carries these conditions on its digits.

The reader accepts exactly these texts whose hours are below 24 and whose minutes and seconds
are below 60, and whose length is within the range of durations: `D` days, `H` hours, `M`
minutes and `S` seconds, and `F` padded with zeros to nine digits as nanoseconds. It returns
that length, negated after a minus (`Duration.read?_eq_some_iff_written`). The length is put
together as a natural number and checked against the range once, so a large day count cannot
wrap around, and a character other than `0`–`9` where a digit is expected makes the text no
duration.

The proof follows the reader's three steps (`Duration.read?_eq`): the sign
(`Duration.splitSign_eq`), the days (`Duration.splitDays_eq_some`) and the clock, itself a
clock field (`Duration.readClockField_eq_some_iff`) for the hours and for the minutes and
then the seconds (`Duration.readSecondsPart_eq_some`). Each step is described both ways: what
it reads from a text of the right form, and what a text it reads must look like.
-/

namespace RecordQuery

namespace Duration

/-! ### The form of a duration text -/

/-- One or two ASCII digits: how hours, minutes and whole seconds are written. -/
def ClockDigits (ds : List Char) : Prop :=
  (ds.length = 1 ∨ ds.length = 2) ∧ ∀ c ∈ ds, Decimal.isDigit c = true

/-- The seconds of a clock, `:S` or `:S.F`: one or two digits, and perhaps a fraction of one to
nine digits. -/
structure SecondsText where
  whole : List Char
  fraction : Option (List Char)
  whole_digits : ClockDigits whole
  fraction_digits : ∀ F ∈ fraction, 1 ≤ F.length ∧ F.length ≤ 9 ∧ ∀ c ∈ F, Decimal.isDigit c = true

namespace SecondsText

/-- The text `:S` or `:S.F`. -/
def chars (t : SecondsText) : List Char :=
  ':' :: (t.whole ++ match t.fraction with
    | none => []
    | some F => '.' :: F)

/-- The whole seconds. -/
def value (t : SecondsText) : Nat := Decimal.ofDigits t.whole

/-- The fraction in nanoseconds: its digits padded with zeros to nine. -/
def nanos (t : SecondsText) : Nat :=
  match t.fraction with
  | none => 0
  | some F => Decimal.ofDigits F * Nat.pow 10 (9 - F.length)

end SecondsText

/-- What follows the minutes: the text of the seconds, or nothing. -/
def secondsChars : Option SecondsText → List Char
  | none => []
  | some t => t.chars

/-- The clock `H:M[:S[.F]]`: hours and minutes of one or two digits each, and perhaps
seconds. -/
structure Clock where
  hours : List Char
  minutes : List Char
  seconds : Option SecondsText
  hours_digits : ClockDigits hours
  minutes_digits : ClockDigits minutes

namespace Clock

/-- The text of the clock. -/
def chars (c : Clock) : List Char := c.hours ++ ':' :: (c.minutes ++ secondsChars c.seconds)

/-- The whole seconds, zero when they are not written. -/
def secondsValue (c : Clock) : Nat := (c.seconds.map SecondsText.value).getD 0

/-- The fraction in nanoseconds, zero when it is not written. -/
def fractionNanos (c : Clock) : Nat := (c.seconds.map SecondsText.nanos).getD 0

/-- The whole seconds that hours, minutes and seconds add up to. -/
def wholeSeconds (c : Clock) : Nat :=
  Decimal.ofDigits c.hours * 3600 + Decimal.ofDigits c.minutes * 60 + c.secondsValue

/-- Hours below 24, minutes and seconds below 60. -/
def InRange (c : Clock) : Prop :=
  Decimal.ofDigits c.hours < 24 ∧ Decimal.ofDigits c.minutes < 60 ∧ c.secondsValue < 60

end Clock

/-- The days in front of the clock: their digits and a point, or nothing. -/
def dayPart : Option (List Char) → List Char
  | none => []
  | some D => D ++ ['.']

/-- A duration text `[-][D.]H:M[:S[.F]]` taken apart: the sign, the whole days, one or more
ASCII digits when written, and the clock. -/
structure Written where
  negative : Bool
  days : Option (List Char)
  clock : Clock
  days_digits : ∀ D ∈ days, D ≠ [] ∧ ∀ c ∈ D, Decimal.isDigit c = true

namespace Written

/-- The text `[-][D.]H:M[:S[.F]]`. -/
def chars (w : Written) : List Char :=
  (if w.negative then ['-'] else []) ++ (dayPart w.days ++ w.clock.chars)

/-- The whole days, zero when they are not written. -/
def daysValue (w : Written) : Nat := Decimal.ofDigits (w.days.getD [])

/-- The length of the duration in nanoseconds. -/
def magnitude (w : Written) : Nat :=
  (w.daysValue * 86400 + w.clock.wholeSeconds) * 1000000000 + w.clock.fractionNanos

/-- The length with its sign. -/
def nanos (w : Written) : Int :=
  if w.negative then -(w.magnitude : Int) else w.magnitude

end Written

/-! ### Clock fields and seconds -/

/-- A clock field is one or two digits in front of a text that does not go on with a
digit. -/
theorem readClockField_eq_some_iff {cs rest : List Char} {n : Nat} :
    readClockField cs = some (n, rest) ↔
      ∃ ds, cs = ds ++ rest ∧ ClockDigits ds ∧
        (∀ c ∈ rest.head?, Decimal.isDigit c = false) ∧ n = Decimal.ofDigits ds := by
  rcases hs : Decimal.spanDigits cs with ⟨ds, r⟩
  obtain ⟨hcs, hds, hr⟩ := Decimal.spanDigits_eq_iff.mp hs
  simp only [readClockField, hs]
  constructor
  · intro h
    split at h
    · rename_i hlen
      cases h
      exact ⟨ds, hcs, ⟨by simpa using hlen, hds⟩, hr, rfl⟩
    · cases h
  · rintro ⟨ds', hcs', ⟨hlen, hds'⟩, hr', rfl⟩
    -- the digits in front are split off the same way
    obtain ⟨rfl, rfl⟩ :=
      Prod.mk.inj (hs.symm.trans (Decimal.spanDigits_eq_iff.mpr ⟨hcs', hds', hr'⟩))
    simp [hlen]

/-- The text of some seconds is read as its whole seconds and its fraction. -/
theorem readSecondsPart_chars (t : SecondsText) :
    readSecondsPart t.chars = some (t.value, t.nanos) := by
  obtain ⟨S, F, hS, hF⟩ := t
  cases F with
  | none =>
    have h := readClockField_eq_some_iff.mpr ⟨S, (List.append_nil S).symm, hS, by simp, rfl⟩
    simp [SecondsText.chars, readSecondsPart, h, SecondsText.value, SecondsText.nanos]
  | some F =>
    obtain ⟨hpos, hle, hdig⟩ := hF F rfl
    have h : readClockField (S ++ '.' :: F) = some (Decimal.ofDigits S, '.' :: F) :=
      readClockField_eq_some_iff.mpr ⟨S, rfl, hS, by simp [Decimal.isDigit], rfl⟩
    have hall : F.all Decimal.isDigit = true := List.all_eq_true.mpr hdig
    simp [SecondsText.chars, readSecondsPart, h, hpos, hle, hall, SecondsText.value,
      SecondsText.nanos]

/-- What follows the minutes, when it is read, is the text of some seconds or nothing. -/
theorem readSecondsPart_eq_some {cs : List Char} {s f : Nat}
    (h : readSecondsPart cs = some (s, f)) :
    ∃ sec : Option SecondsText, cs = secondsChars sec ∧
      s = (sec.map SecondsText.value).getD 0 ∧ f = (sec.map SecondsText.nanos).getD 0 := by
  unfold readSecondsPart at h
  split at h
  · cases h
    exact ⟨none, rfl, rfl, rfl⟩
  · rename_i r
    split at h
    · -- whole seconds
      rename_i s' hr
      cases h
      obtain ⟨S, hrS, hS, -, rfl⟩ := readClockField_eq_some_iff.mp hr
      refine ⟨some ⟨S, none, hS, by simp⟩, ?_, rfl, rfl⟩
      simp [secondsChars, SecondsText.chars, hrS]
    · -- seconds and a fraction
      rename_i s' F hr
      split at h
      · rename_i hF
        cases h
        obtain ⟨S, hrS, hS, -, rfl⟩ := readClockField_eq_some_iff.mp hr
        simp only [Bool.and_eq_true, decide_eq_true_eq, List.all_eq_true] at hF
        obtain ⟨⟨hpos, hle⟩, hdig⟩ := hF
        refine ⟨some ⟨S, some F, hS, fun F' hF' => ?_⟩, ?_, rfl, rfl⟩
        · cases hF'
          exact ⟨hpos, hle, hdig⟩
        · simp [secondsChars, SecondsText.chars, hrS]
      · cases h
    · cases h
  · cases h

/-- What follows the minutes is read as the whole seconds and the fraction, zero when not
written. -/
theorem readSecondsPart_secondsChars (sec : Option SecondsText) :
    readSecondsPart (secondsChars sec) =
      some ((sec.map SecondsText.value).getD 0, (sec.map SecondsText.nanos).getD 0) := by
  cases sec with
  | none => rfl
  | some t => exact readSecondsPart_chars t

/-- What follows the minutes does not start with a digit. -/
theorem head?_secondsChars (sec : Option SecondsText) :
    ∀ c ∈ (secondsChars sec).head?, Decimal.isDigit c = false := by
  cases sec <;> simp [secondsChars, SecondsText.chars, Decimal.isDigit]

/-! ### The clock -/

/-- A clock in range is read as its time after `days` whole days, negated when `neg`. -/
theorem readClock_chars (neg : Bool) (days : Nat) {c : Clock} (hc : c.InRange) :
    readClock neg days c.chars =
      ofNanos? (let n := (days * 86400 + c.wholeSeconds) * 1000000000 + c.fractionNanos
        if neg then -(n : Int) else n) := by
  obtain ⟨H, M, sec, hH, hM⟩ := c
  obtain ⟨hh, hm, hs⟩ := hc
  have h1 : readClockField (H ++ ':' :: (M ++ secondsChars sec)) =
      some (Decimal.ofDigits H, ':' :: (M ++ secondsChars sec)) :=
    readClockField_eq_some_iff.mpr ⟨H, rfl, hH, by simp [Decimal.isDigit], rfl⟩
  have h2 : readClockField (M ++ secondsChars sec) = some (Decimal.ofDigits M, secondsChars sec) :=
    readClockField_eq_some_iff.mpr ⟨M, rfl, hM, head?_secondsChars sec, rfl⟩
  simp only [Clock.secondsValue] at hs
  simp only [readClock, Clock.chars, h1, h2, readSecondsPart_secondsChars, hh, hm, hs,
    decide_true, Bool.and_self, if_true, Clock.wholeSeconds, Clock.secondsValue,
    Clock.fractionNanos, Nat.add_assoc]

/-- A clock that the reader reads after `days` whole days is the text of a clock in range, and
the length it gives is within range. -/
theorem readClock_eq_some {neg : Bool} {days : Nat} {ht : List Char} {d : Duration}
    (h : readClock neg days ht = some d) :
    ∃ c : Clock, ht = c.chars ∧ c.InRange ∧
      ofNanos? (let n := (days * 86400 + c.wholeSeconds) * 1000000000 + c.fractionNanos
        if neg then -(n : Int) else n) = some d := by
  unfold readClock at h
  split at h
  · rename_i hh r₂ h₁
    split at h
    · rename_i mm r₃ h₂
      split at h
      · rename_i ss ff h₃
        split at h
        · rename_i hrange
          obtain ⟨H, rfl, hH, -, rfl⟩ := readClockField_eq_some_iff.mp h₁
          obtain ⟨M, rfl, hM, -, rfl⟩ := readClockField_eq_some_iff.mp h₂
          obtain ⟨sec, rfl, rfl, rfl⟩ := readSecondsPart_eq_some h₃
          simp only [Bool.and_eq_true, decide_eq_true_eq] at hrange
          obtain ⟨⟨hh, hm⟩, hs⟩ := hrange
          refine ⟨⟨H, M, sec, hH, hM⟩, rfl, ⟨hh, hm, hs⟩, ?_⟩
          simpa only [Clock.wholeSeconds, Clock.secondsValue, Clock.fractionNanos,
            Nat.add_assoc] using h
        · cases h
      · cases h
    · cases h
  · cases h

/-! ### Days and sign -/

/-- Whole days are read in front of their point, and without days the clock starts the
text. -/
theorem splitDays_written {D : Option (List Char)}
    (hD : ∀ x ∈ D, x ≠ [] ∧ ∀ c ∈ x, Decimal.isDigit c = true) (c : Clock) :
    splitDays (dayPart D ++ c.chars) = (Decimal.ofDigits (D.getD []), some c.chars) := by
  cases D with
  | none =>
    obtain ⟨H, M, sec, ⟨-, hH⟩, -⟩ := c
    simp only [dayPart, List.nil_append, Option.getD_none, Decimal.ofDigits_nil, Clock.chars]
    exact splitDays_of_no_point hH (by simp [Decimal.isDigit])
  | some x =>
    obtain ⟨hne, hx⟩ := hD x rfl
    simp only [dayPart, List.append_assoc, List.singleton_append, Option.getD_some]
    exact splitDays_point hne hx c.chars

/-- Days that the reader finds are one or more digits in front of a point; else there are
none, and the clock is the whole text. -/
theorem splitDays_eq_some {body ht : List Char} {days : Nat}
    (h : splitDays body = (days, some ht)) :
    ∃ D : Option (List Char),
      (∀ x ∈ D, x ≠ [] ∧ ∀ c ∈ x, Decimal.isDigit c = true) ∧
        body = dayPart D ++ ht ∧ days = Decimal.ofDigits (D.getD []) := by
  obtain ⟨hbody, hlead, -⟩ := Decimal.spanDigits_spec body
  unfold splitDays at h
  split at h
  · rename_i t ht'
    split at h
    · cases h
    · rename_i hne
      cases h
      refine ⟨some (Decimal.spanDigits body).1, fun x hx => ?_, ?_, rfl⟩
      · cases hx
        exact ⟨by simpa using hne, hlead⟩
      · simp only [dayPart, List.append_assoc, List.singleton_append]
        rw [← ht']
        exact hbody
  · cases h
    exact ⟨none, by simp, rfl, rfl⟩

/-- The sign that the reader finds is a minus in front of the rest. -/
theorem splitSign_eq {cs body : List Char} {neg : Bool} (h : splitSign cs = (neg, body)) :
    cs = (if neg then ['-'] else []) ++ body := by
  unfold splitSign at h
  split at h <;> cases h <;> rfl

/-- A minus in front of a text that starts with a digit is read as the sign. -/
theorem splitSign_sign (neg : Bool) {body : List Char}
    (h : ∀ c ∈ body.head?, Decimal.isDigit c = true) :
    splitSign ((if neg then ['-'] else []) ++ body) = (neg, body) := by
  cases neg with
  | true => rfl
  | false => exact splitSign_of_isDigit h

/-- The days or the clock of a written duration start with a digit. -/
theorem head?_dayPart_chars {D : Option (List Char)}
    (hD : ∀ x ∈ D, x ≠ [] ∧ ∀ c ∈ x, Decimal.isDigit c = true) (c : Clock) :
    ∀ x ∈ (dayPart D ++ c.chars).head?, Decimal.isDigit x = true := by
  cases D with
  | none =>
    obtain ⟨H, M, sec, ⟨hlen, hH⟩, -⟩ := c
    intro x hx
    have hne : H ≠ [] := by
      intro h
      simp [h] at hlen
    simp only [dayPart, List.nil_append, Clock.chars] at hx
    rw [List.head?_append_of_ne_nil _ hne] at hx
    exact hH x (List.mem_of_mem_head? hx)
  | some y =>
    intro x hx
    obtain ⟨hne, hy⟩ := hD y rfl
    simp only [dayPart, List.append_assoc] at hx
    rw [List.head?_append_of_ne_nil _ hne] at hx
    exact hy x (List.mem_of_mem_head? hx)

/-! ### Durations -/

/-- A length within range is a duration, and only one. -/
theorem ofNanos?_eq_some_iff {n : Int} {d : Duration} :
    ofNanos? n = some d ↔ n.natAbs ≤ maxNanos ∧ d.nanos = n := by
  unfold ofNanos?
  split
  · rename_i hn
    obtain ⟨m, hm⟩ := d
    simp only [Option.some.injEq, Duration.mk.injEq, hn, true_and]
    exact eq_comm
  · rename_i hn
    simp [hn]

/-- The magnitude of a signed length is the length. -/
theorem natAbs_nanos (w : Written) : w.nanos.natAbs = w.magnitude := by
  unfold Written.nanos
  split <;> simp

/-- A written length is a duration exactly when its magnitude is within range. -/
theorem ofNanos?_written_eq_some_iff (w : Written) {d : Duration} :
    ofNanos? w.nanos = some d ↔ w.magnitude ≤ maxNanos ∧ d.nanos = w.nanos := by
  rw [ofNanos?_eq_some_iff, natAbs_nanos]

/-- A duration is read from exactly the texts `[-][D.]H:M[:S[.F]]`, blanks around them
trimmed, in ASCII digits, with `D` of any positive length, `H`, `M` and `S` of one or two
digits and `F` of one to nine, whose hours are below 24 and minutes and seconds below 60, and
whose length `D` days, `H` hours, `M` minutes, `S` seconds and `F` padded to nine digits as
nanoseconds is at most the largest duration. The duration read is that length, negated after
a minus. -/
theorem read?_eq_some_iff_written (cs : List Char) (d : Duration) :
    read? cs = some d ↔
      ∃ w : Written, Text.trimChars cs = w.chars ∧ w.clock.InRange ∧ w.magnitude ≤ maxNanos ∧
        d.nanos = w.nanos := by
  rw [read?_eq]
  constructor
  · intro h
    rcases hs : splitSign (Text.trimChars cs) with ⟨neg, body⟩
    rcases hd : splitDays body with ⟨days, _ | ht⟩
    · simp [hs, hd] at h
    · simp only [hs, hd] at h
      obtain ⟨c, rfl, hc, hn⟩ := readClock_eq_some h
      obtain ⟨D, hD, rfl, rfl⟩ := splitDays_eq_some hd
      let w : Written := ⟨neg, D, c, hD⟩
      obtain ⟨hle, hnanos⟩ := (ofNanos?_written_eq_some_iff w).mp hn
      exact ⟨w, splitSign_eq hs, hc, hle, hnanos⟩
  · rintro ⟨⟨neg, D, c, hD⟩, htrim, hc, hle, hnanos⟩
    rw [htrim, Written.chars, splitSign_sign neg (head?_dayPart_chars hD c)]
    dsimp only
    rw [splitDays_written hD c]
    dsimp only
    rw [readClock_chars neg _ hc]
    exact (ofNanos?_written_eq_some_iff ⟨neg, D, c, hD⟩).mpr ⟨hle, hnanos⟩

-- The largest duration, `2^63 - 1` milliseconds, is read; a nanosecond more is not.
example : (read? "106751991167.07:12:55.807".toList).isSome = true := by decide
example : (read? "106751991167.07:12:55.808".toList).isNone = true := by decide
-- A decimal digit other than `0`–`9` is no digit of a duration.
example : (read? "١:00".toList).isNone = true := by decide

end Duration

end RecordQuery
