import RecordQuery.Proofs.Value.Readers
import RecordQuery.Proofs.Value.Print
import RecordQuery.Proofs.Number.Digits

/-!
# Reading back the texts of UUIDs and durations

A UUID is written as its 32 lower-case hex digits in groups of 8, 4, 4, 4 and 12 joined by
hyphens; the reader takes the hyphenated form apart into the same digits and reads them as a
number, most significant first (`Uuid.read?_toText`).

A duration is written with its sign, its whole days and a point when there are some, the
clock `HH:MM:SS` of the rest, and its nanoseconds without their trailing zeros. The reader
is stated here in three steps (`Duration.read?_eq`): the sign, the days, and the clock; each
step reads its part of a written duration back, so the whole text is read back as the
duration (`Duration.read?_toText`).

The same steps show what is no duration: a text with no digits or more than two in front
and no point after them has neither days nor an hour (`Duration.read?_eq_none_of_lead`).
-/

namespace RecordQuery

namespace Uuid

theorem hexDigit_ne_hyphen {d : Nat} (h : d < 16) : hexDigit d ≠ '-' :=
  (by decide : ∀ d, d < 16 → hexDigit d ≠ '-') d h

theorem hexValue?_hexDigit {d : Nat} (h : d < 16) : hexValue? (hexDigit d) = some d :=
  (by decide : ∀ d, d < 16 → hexValue? (hexDigit d) = some d) d h

theorem hexDigits_eq (u : Uuid) : u.hexDigits =
    (List.range 32).map fun i => hexDigit (u.bits.toNat / 16 ^ (31 - i) % 16) := by
  simp only [hexDigits, Nat.pow_eq]

theorem length_hexDigits (u : Uuid) : u.hexDigits.length = 32 := by
  simp [hexDigits]

theorem hyphen_not_mem_hexDigits (u : Uuid) : '-' ∉ u.hexDigits := by
  simp only [hexDigits, List.mem_map, not_exists, not_and]
  exact fun _ _ => hexDigit_ne_hyphen (Nat.mod_lt _ (by decide))

theorem ascii_of_mem_hexDigits {u : Uuid} {c : Char} (h : c ∈ u.hexDigits) : c.toNat < 128 := by
  rw [hexDigits_eq] at h
  obtain ⟨i, -, rfl⟩ := List.mem_map.mp h
  exact (by decide : ∀ d, d < 16 → (hexDigit d).toNat < 128) _ (Nat.mod_lt _ (by decide))

/-- Reading the first `k` of the 32 hex digits of `N` gives `N` without its last `32 - k`
digits. -/
theorem foldlM_hexDigits {N : Nat} (hN : N < 16 ^ 32) {k : Nat} (hk : k ≤ 32) :
    ((List.range k).map fun i => hexDigit (N / 16 ^ (31 - i) % 16)).foldlM
      (fun n c => (hexValue? c).map fun d => 16 * n + d) 0 = some (N / 16 ^ (32 - k)) := by
  induction k with
  | zero =>
    rw [Nat.sub_zero, Nat.div_eq_of_lt hN]
    rfl
  | succ k ih =>
    rw [List.range_succ, List.map_append, List.foldlM_append, ih (by omega)]
    simp only [List.map_cons, List.map_nil, List.foldlM_cons, List.foldlM_nil,
      Option.bind_eq_bind, Option.bind_some]
    rw [hexValue?_hexDigit (Nat.mod_lt _ (by decide))]
    simp only [Option.map_some, Option.bind_some]
    -- dropping one digit less keeps the digit in front of the last one
    have hpow : 16 ^ (32 - k) = 16 ^ (31 - k) * 16 := by
      rw [show 32 - k = 31 - k + 1 by omega, Nat.pow_succ]
    rw [hpow, ← Nat.div_div_eq_div_mul, show 32 - (k + 1) = 31 - k by omega]
    congr 1
    omega

theorem ofHex?_hexDigits (u : Uuid) : ofHex? u.hexDigits = some u.bits.toNat := by
  have hN : u.bits.toNat < 16 ^ 32 := u.bits.isLt
  rw [ofHex?, hexDigits_eq, foldlM_hexDigits hN (Nat.le_refl 32)]
  simp

/-- The hyphenated form is read as its groups put together. -/
theorem readHyphenated?_groups {a b c d e : List Char} (ha : a.length = 8) (hb : b.length = 4)
    (hc : c.length = 4) (hd : d.length = 4) (he : e.length = 12) :
    readHyphenated? (a ++ '-' :: b ++ '-' :: c ++ '-' :: d ++ '-' :: e) =
      readSimple? (a ++ b ++ c ++ d ++ e) := by
  unfold readHyphenated?
  simp [ha, hb, hc, hd, he, List.drop_append, List.drop_eq_nil_of_le]

theorem toText_toList (u : Uuid) :
    u.toText.toList = u.hexDigits.take 8 ++ '-' :: (u.hexDigits.drop 8).take 4 ++
      '-' :: (u.hexDigits.drop 12).take 4 ++ '-' :: (u.hexDigits.drop 16).take 4 ++ '-' ::
      u.hexDigits.drop 20 := by
  simp [toText]

/-- A UUID's text holds its hex digits and hyphens. -/
theorem mem_toText {u : Uuid} {c : Char} (h : c ∈ u.toText.toList) :
    c ∈ u.hexDigits ∨ c = '-' := by
  simp only [toText, String.toList_ofList, List.mem_append, List.mem_singleton] at h
  rcases h with (((((((h | h) | h) | h) | h) | h) | h) | h) | h
  · exact .inl (List.mem_of_mem_take h)
  · exact .inr h
  · exact .inl (List.mem_of_mem_drop (List.mem_of_mem_take h))
  · exact .inr h
  · exact .inl (List.mem_of_mem_drop (List.mem_of_mem_take h))
  · exact .inr h
  · exact .inl (List.mem_of_mem_drop (List.mem_of_mem_take h))
  · exact .inr h
  · exact .inl (List.mem_of_mem_drop h)

/-- A UUID's text holds four hyphens. -/
theorem count_hyphen_toText (u : Uuid) : u.toText.toList.count '-' = 4 := by
  have h0 : ∀ l : List Char, l ⊆ u.hexDigits → l.count '-' = 0 := fun l hl =>
    List.count_eq_zero.mpr fun h => hyphen_not_mem_hexDigits u (hl h)
  have hmid : ∀ m, (u.hexDigits.drop m).take 4 ⊆ u.hexDigits :=
    fun _ _ h => List.mem_of_mem_drop (List.mem_of_mem_take h)
  simp only [toText, String.toList_ofList, List.count_append, List.count_singleton_self]
  rw [h0 _ (List.take_subset _ _), h0 _ (hmid 8), h0 _ (hmid 12), h0 _ (hmid 16),
    h0 _ (List.drop_subset _ _)]

/-- The text of a UUID is read back as the UUID. -/
theorem read?_toText (u : Uuid) : read? u.toText.toList = some u := by
  have hlen := length_hexDigits u
  -- the groups put together are the digits
  have hgroups : u.hexDigits.take 8 ++ (u.hexDigits.drop 8).take 4 ++
      (u.hexDigits.drop 12).take 4 ++ (u.hexDigits.drop 16).take 4 ++ u.hexDigits.drop 20 =
      u.hexDigits := by
    have hsplit (m : Nat) : (u.hexDigits.drop m).take 4 ++ u.hexDigits.drop (m + 4) =
        u.hexDigits.drop m := by
      rw [← List.drop_drop, List.take_append_drop]
    simp only [List.append_assoc, hsplit 16, hsplit 12, hsplit 8, List.take_append_drop]
  have hascii : ∀ c ∈ u.toText.toList, c.toNat < 128 := by
    intro c hc
    rcases mem_toText hc with h | rfl
    · exact ascii_of_mem_hexDigits h
    · decide
  have hlen36 : u.toText.toList.length = 36 := by
    rw [toText_toList]
    simp [hlen]
  unfold read?
  rw [if_neg (by simpa using hascii), if_neg (by omega), if_pos hlen36, toText_toList,
    readHyphenated?_groups (by simp [hlen]) (by simp [hlen]) (by simp [hlen]) (by simp [hlen])
      (by simp [hlen]), hgroups]
  simp [readSimple?, hlen, ofHex?_hexDigits]

end Uuid

namespace Duration

/-- A clock field is read from its two digits. -/
theorem readClockField_padDigits {n : Nat} (hn : n < 100) {rest : List Char}
    (hrest : ∀ c ∈ rest.head?, Decimal.isDigit c = false) :
    readClockField (Decimal.padDigits 2 n ++ rest) = some (n, rest) := by
  have hlen := Decimal.length_padDigits_of_lt (by decide) (show n < 10 ^ 2 by omega)
  simp [readClockField,
    Decimal.spanDigits_append (fun c hc => Decimal.isDigit_of_mem_padDigits hc) hrest, hlen,
    Decimal.ofDigits_padDigits]

/-- The nine digits of a fraction of a second with the trailing zeros dropped are not empty,
are digits, and read back as the fraction at its place. -/
theorem fraction_digits {f : Nat} (h0 : 0 < f) (h9 : f < 10 ^ 9) :
    let F := (List.dropWhile (fun x => decide (x = '0')) (Decimal.padDigits 9 f).reverse).reverse
    F ≠ [] ∧ F.length ≤ 9 ∧ (∀ c ∈ F, Decimal.isDigit c = true) ∧
      Decimal.ofDigits F * Nat.pow 10 (9 - F.length) = f := by
  intro F
  have hlen : (Decimal.padDigits 9 f).length = 9 := Decimal.length_padDigits_of_lt (by decide) h9
  -- the padded digits are `F` followed by the zeros that were dropped
  obtain ⟨Z, hZ, hsplit⟩ : ∃ Z : List Char, (∀ c ∈ Z, c = '0') ∧
      Decimal.padDigits 9 f = F ++ Z := by
    refine ⟨(List.takeWhile (fun x => decide (x = '0')) (Decimal.padDigits 9 f).reverse).reverse,
      fun c hc => ?_, ?_⟩
    · simpa using List.mem_takeWhile_imp (List.mem_reverse.mp hc)
    · rw [← List.reverse_append, List.takeWhile_append_dropWhile, List.reverse_reverse]
  have hZrep : Z = List.replicate Z.length '0' := List.eq_replicate_iff.mpr ⟨rfl, hZ⟩
  have hvalue : Decimal.ofDigits F * 10 ^ Z.length = f := by
    have := Decimal.ofDigits_padDigits 9 f
    rw [hsplit, Decimal.ofDigits_append, hZrep, Decimal.ofDigits_replicate_zero,
      List.length_replicate] at this
    omega
  have hFlen : F.length + Z.length = 9 := by rw [← List.length_append, ← hsplit, hlen]
  refine ⟨fun hF => ?_, by omega, fun c hc => ?_, ?_⟩
  · rw [hF] at hvalue
    simp [Decimal.ofDigits] at hvalue
    omega
  · exact Decimal.isDigit_of_mem_padDigits (hsplit ▸ List.mem_append_left Z hc)
  · rw [show 9 - F.length = Z.length by omega]
    exact hvalue

/-- Whole seconds are read with no fraction. -/
theorem readSecondsPart_whole {s : Nat} (hs : s < 100) :
    readSecondsPart (':' :: Decimal.padDigits 2 s) = some (s, 0) := by
  have h := readClockField_padDigits hs
    (by simp : ∀ c ∈ ([] : List Char).head?, Decimal.isDigit c = false)
  rw [List.append_nil] at h
  simp [readSecondsPart, h]

/-- A fraction of one to nine digits is read at its place. -/
theorem readSecondsPart_fraction {s : Nat} (hs : s < 100) {F : List Char} (hne : F ≠ [])
    (hlen : F.length ≤ 9) (hd : ∀ c ∈ F, Decimal.isDigit c = true) :
    readSecondsPart (':' :: (Decimal.padDigits 2 s ++ '.' :: F)) =
      some (s, Decimal.ofDigits F * Nat.pow 10 (9 - F.length)) := by
  have h := readClockField_padDigits hs
    (by simp [Decimal.isDigit] : ∀ c ∈ ('.' :: F).head?, Decimal.isDigit c = false)
  have hall : F.all Decimal.isDigit = true := List.all_eq_true.mpr hd
  have hpos : 1 ≤ F.length := List.length_pos_iff.mpr hne
  simp [readSecondsPart, h, hall, hlen, hpos]

/-- The sign of a trimmed duration text, and the text after it. -/
def splitSign (cs : List Char) : Bool × List Char :=
  match cs with
  | '-' :: r => (true, r)
  | r => (false, r)

/-- The whole days in front of a point, if any, and the text of the clock after them; no clock
when a point follows no digits. -/
def splitDays (body : List Char) : Nat × Option (List Char) :=
  match (Decimal.spanDigits body).2 with
  | '.' :: t =>
    if (Decimal.spanDigits body).1.isEmpty then (0, none)
    else (Decimal.ofDigits (Decimal.spanDigits body).1, some t)
  | _ => (0, some body)

/-- The duration of a clock text `H:M[:S[.F]]` after `days` whole days, negated when `neg`. -/
def readClock (neg : Bool) (days : Nat) (ht : List Char) : Option Duration :=
  match readClockField ht with
  | some (h, ':' :: r2) =>
    match readClockField r2 with
    | some (m, r3) =>
      match readSecondsPart r3 with
      | some (s, f) =>
        if h < 24 && m < 60 && s < 60 then
          let total : Int := ((days * 86400 + h * 3600 + m * 60 + s) * 1000000000 + f : Nat)
          ofNanos? (if neg then -total else total)
        else none
      | none => none
    | none => none
  | _ => none

/-- Reading a duration in three steps: the sign, the days, and the clock. -/
theorem read?_eq (cs : List Char) :
    read? cs =
      let (neg, body) := splitSign (Text.trimChars cs)
      let (days, hourText) := splitDays body
      match hourText with
      | none => none
      | some ht => readClock neg days ht := by
  rfl

theorem splitSign_of_ne {c : Char} (hc : c ≠ '-') (r : List Char) :
    splitSign (c :: r) = (false, c :: r) := by
  simp [splitSign, hc]

/-- One or more digits in front of a point are read as the days. -/
theorem splitDays_point {ds : List Char} (hne : ds ≠ [])
    (hds : ∀ c ∈ ds, Decimal.isDigit c = true) (ht : List Char) :
    splitDays (ds ++ '.' :: ht) = (Decimal.ofDigits ds, some ht) := by
  have hspan := Decimal.spanDigits_append hds
    (by simp [Decimal.isDigit] : ∀ c ∈ ('.' :: ht).head?, Decimal.isDigit c = false)
  have hempty : ds.isEmpty = false := List.isEmpty_eq_false_iff.mpr hne
  simp [splitDays, hspan, hempty]

/-- Whole days are read in front of their point. -/
theorem splitDays_days (days : Nat) (ht : List Char) :
    splitDays (Decimal.natDigits days ++ '.' :: ht) = (days, some ht) := by
  rw [splitDays_point (Decimal.natDigits_ne_nil days)
    (fun c hc => Decimal.isDigit_of_mem_natDigits hc), Decimal.ofDigits_natDigits]

/-- Without days the clock starts the text. -/
theorem splitDays_clock (h : Nat) (rest : List Char) :
    splitDays (Decimal.padDigits 2 h ++ ':' :: rest) =
      (0, some (Decimal.padDigits 2 h ++ ':' :: rest)) := by
  have hspan := Decimal.spanDigits_append
    (fun c (hc : c ∈ Decimal.padDigits 2 h) => Decimal.isDigit_of_mem_padDigits hc)
    (by simp [Decimal.isDigit] : ∀ c ∈ (':' :: rest).head?, Decimal.isDigit c = false)
  simp [splitDays, hspan]

/-- A clock `HH:MM:SS` with its fraction is read as its time after the days. -/
theorem readClock_padDigits {neg : Bool} {days h m s f : Nat} (hh : h < 24) (hm : m < 60)
    (hs : s < 60) {fracPart : List Char}
    (hfrac : readSecondsPart (':' :: (Decimal.padDigits 2 s ++ fracPart)) = some (s, f)) :
    readClock neg days (Decimal.padDigits 2 h ++ ':' :: (Decimal.padDigits 2 m ++ ':' ::
        (Decimal.padDigits 2 s ++ fracPart))) =
      ofNanos? (let total : Int :=
          ((days * 86400 + h * 3600 + m * 60 + s) * 1000000000 + f : Nat)
        if neg then -total else total) := by
  have h1 := readClockField_padDigits (by omega : h < 100)
    (by simp [Decimal.isDigit] : ∀ c ∈ (':' :: (Decimal.padDigits 2 m ++ ':' ::
      (Decimal.padDigits 2 s ++ fracPart))).head?, Decimal.isDigit c = false)
  have h2 := readClockField_padDigits (by omega : m < 100)
    (by simp [Decimal.isDigit] : ∀ c ∈ (':' :: (Decimal.padDigits 2 s ++ fracPart)).head?,
      Decimal.isDigit c = false)
  simp [readClock, h1, h2, hfrac, hh, hm, hs]

/-- The fraction of a duration's text: nothing for whole seconds, else a point and the nine
digits of the nanoseconds without their trailing zeros. -/
def fractionText (f : Nat) : List Char :=
  if f = 0 then []
  else
    '.' :: (List.dropWhile (fun x => decide (x = '0')) (Decimal.padDigits 9 f).reverse).reverse

/-- The text of a duration: its sign, its days and a point when there are days, the clock of
the rest of its seconds, and its fraction. -/
theorem toText_toList (d : Duration) :
    d.toText.toList =
      (if d.nanos < 0 then ['-'] else []) ++
        ((if d.nanos.natAbs / 1000000000 / 86400 > 0 then
            Decimal.natDigits (d.nanos.natAbs / 1000000000 / 86400) ++ ['.'] else []) ++
          (Decimal.padDigits 2 (d.nanos.natAbs / 1000000000 % 86400 / 3600) ++ ':' ::
            (Decimal.padDigits 2 (d.nanos.natAbs / 1000000000 % 3600 / 60) ++ ':' ::
              (Decimal.padDigits 2 (d.nanos.natAbs / 1000000000 % 60) ++
                fractionText (d.nanos.natAbs % 1000000000))))) := by
  simp only [toText, String.toList_append, Decimal.padText, Decimal.natText,
    String.toList_ofList, fractionText]
  split <;> split <;> split <;> simp

/-- The seconds and the fraction of a duration's text are read back. -/
theorem readSecondsPart_fractionText {s f : Nat} (hs : s < 100) (hf : f < 1000000000) :
    readSecondsPart (':' :: (Decimal.padDigits 2 s ++ fractionText f)) = some (s, f) := by
  unfold fractionText
  split
  · rename_i h0
    subst h0
    simpa using readSecondsPart_whole hs
  · rename_i h0
    obtain ⟨hne, hlen, hdig, hval⟩ := @fraction_digits f (by omega) (by omega)
    rw [readSecondsPart_fraction hs hne hlen hdig, hval]

/-- A duration is within the range of durations. -/
theorem ofNanos?_nanos (d : Duration) : ofNanos? d.nanos = some d := by
  unfold ofNanos?
  rw [dif_pos d.bounded]

/-- A text that starts with a digit has no sign. -/
theorem splitSign_of_isDigit {cs : List Char}
    (h : ∀ c ∈ cs.head?, Decimal.isDigit c = true) :
    splitSign cs = (false, cs) := by
  match cs, h with
  | [], _ => rfl
  | c :: r, h =>
    refine splitSign_of_ne (fun hc => ?_) r
    subst hc
    exact absurd (h '-' rfl) (by decide)

/-- The days of a duration's text, written when there are some, are read in front of its
clock. -/
theorem splitDays_dayPart (days h : Nat) (rest : List Char) :
    splitDays ((if days > 0 then Decimal.natDigits days ++ ['.'] else []) ++
        (Decimal.padDigits 2 h ++ ':' :: rest)) =
      (days, some (Decimal.padDigits 2 h ++ ':' :: rest)) := by
  split
  · rw [List.append_assoc, List.singleton_append]
    exact splitDays_days days _
  · rw [show days = 0 by omega, List.nil_append]
    exact splitDays_clock h rest

/-- The text of the days or of the clock starts with a digit. -/
theorem head_dayPart_isDigit (days h : Nat) (rest : List Char) :
    ∀ c ∈ ((if days > 0 then Decimal.natDigits days ++ ['.'] else []) ++
        (Decimal.padDigits 2 h ++ ':' :: rest)).head?, Decimal.isDigit c = true := by
  intro c hc
  split at hc
  · rw [List.append_assoc, List.head?_append_of_ne_nil _ (Decimal.natDigits_ne_nil days)] at hc
    exact Decimal.isDigit_of_mem_natDigits (List.mem_of_mem_head? hc)
  · rw [List.nil_append, List.head?_append_of_ne_nil _ (Decimal.padDigits_ne_nil 2 h)] at hc
    exact Decimal.isDigit_of_mem_padDigits (List.mem_of_mem_head? hc)

/-- The text of a duration is read back as the duration. -/
theorem read?_toText (d : Duration) : read? d.toText.toList = some d := by
  rw [read?_eq, Text.trimChars_eq_self_of_forall (noBlank_toText d), toText_toList]
  generalize hN : d.nanos.natAbs = N
  -- the clock and the fraction are read as the time of day and the nanoseconds
  have hclock : ∀ neg days, readClock neg days
      (Decimal.padDigits 2 (N / 1000000000 % 86400 / 3600) ++ ':' ::
        (Decimal.padDigits 2 (N / 1000000000 % 3600 / 60) ++ ':' ::
          (Decimal.padDigits 2 (N / 1000000000 % 60) ++ fractionText (N % 1000000000)))) =
      ofNanos? (let total : Int := ((days * 86400 + N / 1000000000 % 86400 / 3600 * 3600 +
          N / 1000000000 % 3600 / 60 * 60 + N / 1000000000 % 60) * 1000000000 +
          N % 1000000000 : Nat)
        if neg then -total else total) := fun _ _ =>
    readClock_padDigits (by omega) (by omega) (by omega)
      (readSecondsPart_fractionText (by omega) (by omega))
  -- days, hours, minutes, seconds and nanoseconds add up to the whole
  have htotal : (N / 1000000000 / 86400 * 86400 + N / 1000000000 % 86400 / 3600 * 3600 +
      N / 1000000000 % 3600 / 60 * 60 + N / 1000000000 % 60) * 1000000000 +
      N % 1000000000 = N := by omega
  by_cases hneg : d.nanos < 0
  · simp only [if_pos hneg, List.singleton_append, splitSign, splitDays_dayPart, hclock, htotal,
      if_true]
    rw [show -(N : Int) = d.nanos by omega]
    exact ofNanos?_nanos d
  · simp only [if_neg hneg, List.nil_append, splitSign_of_isDigit (head_dayPart_isDigit _ _ _),
      splitDays_dayPart, hclock, htotal]
    rw [show (N : Int) = d.nanos by omega]
    exact ofNanos?_nanos d


/-- A clock field has one or two digits. -/
theorem readClockField_eq_none {ds rest : List Char} (hds : ∀ c ∈ ds, Decimal.isDigit c = true)
    (hlen : ds.length = 0 ∨ 3 ≤ ds.length)
    (hrest : ∀ c ∈ rest.head?, Decimal.isDigit c = false) : readClockField (ds ++ rest) = none := by
  have hone : ds.length ≠ 1 := by omega
  have htwo : ds.length ≠ 2 := by omega
  simp [readClockField, Decimal.spanDigits_append hds hrest, hone, htwo]

/-- Digits followed by no point are no days: the clock starts the text. -/
theorem splitDays_of_no_point {ds rest : List Char} (hds : ∀ c ∈ ds, Decimal.isDigit c = true)
    (hrest : ∀ c ∈ rest.head?, Decimal.isDigit c = false ∧ c ≠ '.') :
    splitDays (ds ++ rest) = (0, some (ds ++ rest)) := by
  have hspan := Decimal.spanDigits_append hds fun c hc => (hrest c hc).1
  cases rest with
  | nil =>
    rw [List.append_nil] at hspan ⊢
    simp [splitDays, hspan]
  | cons c r => simp [splitDays, hspan, (hrest c rfl).2]

/-- A text whose digits in front, after the sign, are none or more than two and are followed
by no point is no duration: it has neither days nor an hour. -/
theorem read?_eq_none_of_lead {cs ds rest : List Char} {neg : Bool}
    (hsign : splitSign (Text.trimChars cs) = (neg, ds ++ rest))
    (hds : ∀ c ∈ ds, Decimal.isDigit c = true) (hlen : ds.length = 0 ∨ 3 ≤ ds.length)
    (hrest : ∀ c ∈ rest.head?, Decimal.isDigit c = false ∧ c ≠ '.') : read? cs = none := by
  rw [read?_eq, hsign]
  simp only [splitDays_of_no_point hds hrest, readClock,
    readClockField_eq_none hds hlen fun c hc => (hrest c hc).1]

end Duration

end RecordQuery
