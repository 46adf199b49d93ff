import RecordQuery.Value.Parse
import RecordQuery.Proofs.Text.Trim

/-!
# What each reader accepts

The readings of a value are tried in a fixed order, so a printed scalar is read as what it
is only when the readings before its own refuse its text. This module says, for each scalar
reader, which characters it accepts and where they stand:

- an integer is a sign or a digit followed by digits only (`Int128.signedDigits_of_read?`);
- a float literal is written with digits, signs, a point, `e` and the letters of `nan` and
  `infinity`, and holds at most two hyphens (`DecimalLiteral.chars_of_read?`);
- a boolean is spelled with the letters of `true` and `false` (`Reading.boolChar_of_boolean?`);
- a UUID starts with a hex digit, a brace or the `u` of `urn:`, and when it starts with a
  decimal digit it holds hex digits and hyphens only (`Uuid.head_of_read?`,
  `Uuid.isHex_of_read?`).

The printed texts, and how they meet these readers, are in `Proofs.Value.ReadBack`,
`Proofs.Calendar.Text` and `Proofs.Value.Scalar`.
-/

namespace RecordQuery

/-- Taking an optional sign off a text leaves the text or its tail. -/
theorem eq_of_signSplit {cs ds : List Char} {neg : Bool}
    (h : (match cs with | '+' :: r => (false, r) | '-' :: r => (true, r) | r => (false, r)) =
      (neg, ds)) :
    cs = ds ∨ cs = '+' :: ds ∨ cs = '-' :: ds := by
  split at h <;> cases h <;> simp

/-- A text made of an optional sign and then digits only. -/
def SignedDigits (cs : List Char) : Prop :=
  ∃ ds, (cs = ds ∨ cs = '+' :: ds ∨ cs = '-' :: ds) ∧ ∀ c ∈ ds, Decimal.isDigit c = true

namespace SignedDigits

variable {cs : List Char}

theorem of_signSplit {ds : List Char} {neg : Bool}
    (h : (match cs with | '+' :: r => (false, r) | '-' :: r => (true, r) | r => (false, r)) =
      (neg, ds))
    (hds : ¬((ds.isEmpty || !ds.all Decimal.isDigit) = true)) : SignedDigits cs := by
  simp only [Bool.or_eq_true, List.isEmpty_iff, Bool.not_eq_eq_eq_not, Bool.not_true, not_or,
    Bool.not_eq_false, List.all_eq_true] at hds
  exact ⟨ds, eq_of_signSplit h, hds.2⟩

/-- After its first character a signed number has digits only. -/
theorem tail (h : SignedDigits cs) : ∀ c ∈ cs.tail, Decimal.isDigit c = true := by
  obtain ⟨ds, hcs, hds⟩ := h
  rcases hcs with rfl | rfl | rfl
  · exact fun c hc => hds c (List.mem_of_mem_tail hc)
  · exact hds
  · exact hds

/-- A signed number is written with digits and signs. -/
theorem mem (h : SignedDigits cs) : ∀ c ∈ cs, Decimal.isDigit c = true ∨ c = '+' ∨ c = '-' := by
  obtain ⟨ds, hcs, hds⟩ := h
  rcases hcs with rfl | rfl | rfl
  · exact fun c hc => .inl (hds c hc)
  · intro c hc
    rcases List.mem_cons.mp hc with rfl | hc
    · exact .inr (.inl rfl)
    · exact .inl (hds c hc)
  · intro c hc
    rcases List.mem_cons.mp hc with rfl | hc
    · exact .inr (.inr rfl)
    · exact .inl (hds c hc)

/-- A signed number has at most one hyphen, its sign. -/
theorem count_hyphen (h : SignedDigits cs) : cs.count '-' ≤ 1 := by
  obtain ⟨ds, hcs, hds⟩ := h
  have hnone : ds.count '-' = 0 := List.count_eq_zero.mpr fun hm => by
    simpa [Decimal.isDigit] using hds '-' hm
  rcases hcs with rfl | rfl | rfl <;> simp [hnone]

end SignedDigits

namespace Int128

/-- An integer text is an optional sign followed by digits. -/
theorem signedDigits_of_read? {cs : List Char} {n : Int128} (h : read? cs = some n) :
    SignedDigits cs := by
  unfold read? at h
  split at h
  rename_i neg ds hsplit
  split at h
  · cases h
  · rename_i hds
    exact SignedDigits.of_signSplit hsplit hds

end Int128

namespace DecimalLiteral

/-- The characters float literals are written with, in ASCII lower case: digits, signs, the
point, the exponent mark and the letters of `nan` and `infinity`. -/
def isLiteralChar (c : Char) : Bool := Decimal.isDigit c || "+-.enaifty".toList.contains c

theorem lowerAscii_of_isDigit {c : Char} (h : Decimal.isDigit c = true) : lowerAscii c = c := by
  simp only [Decimal.isDigit, Bool.and_eq_true, decide_eq_true_eq] at h
  have : ¬ ('A' ≤ c ∧ c ≤ 'Z') := by
    rintro ⟨hA, -⟩
    have h1 : 65 ≤ c.toNat := hA
    have h2 : c.toNat ≤ 57 := h.2
    omega
  simp [lowerAscii, this]

/-- The characters of a signed number are literal characters in either case. -/
theorem isLiteralChar_of_signedDigits {cs : List Char} (h : SignedDigits cs) :
    ∀ c ∈ cs, isLiteralChar (lowerAscii c) = true := by
  intro c hc
  rcases h.mem c hc with hd | rfl | rfl
  · simp [isLiteralChar, lowerAscii_of_isDigit hd, hd]
  · decide
  · decide

/-- The exponent of a float literal is a signed number. -/
theorem signedDigits_of_readExponent {cs : List Char} {e : Int} (h : readExponent cs = some e) :
    SignedDigits cs := by
  unfold readExponent at h
  split at h
  rename_i neg ds hsplit
  split at h
  · cases h
  · rename_i hds
    exact SignedDigits.of_signSplit hsplit hds

/-- The exponent part of a decimal number, after its digits: nothing, or an exponent mark and
a signed number. -/
theorem chars_of_exponentPart {r2 : List Char} {m : Nat} {s : Int} {p : Nat × Int}
    (h : (match r2 with
      | [] => some (m, -s)
      | c :: t =>
        if (decide (c = 'e') || decide (c = 'E')) = true then
          Option.map (fun e => (m, e - s)) (readExponent t)
        else none) = some p) :
    (∀ c ∈ r2, isLiteralChar (lowerAscii c) = true) ∧ r2.count '-' ≤ 1 := by
  split at h
  · simp
  · rename_i c t
    split at h
    · rename_i hc
      obtain ⟨e, he, -⟩ := Option.map_eq_some_iff.mp h
      have ht := signedDigits_of_readExponent he
      have hc' : isLiteralChar (lowerAscii c) = true ∧ c ≠ '-' := by
        simp only [Bool.or_eq_true, decide_eq_true_eq] at hc
        rcases hc with rfl | rfl <;> decide
      refine ⟨fun x hx => ?_, ?_⟩
      · rcases List.mem_cons.mp hx with rfl | hx
        · exact hc'.1
        · exact isLiteralChar_of_signedDigits ht x hx
      · simpa [List.count_cons, hc'.2] using ht.count_hyphen
    · cases h

/-- Digits and points are literal characters and are not hyphens. -/
theorem chars_append_of_digitsOrPoint {pre r : List Char}
    (hpre : ∀ c ∈ pre, Decimal.isDigit c = true ∨ c = '.')
    (hr : (∀ c ∈ r, isLiteralChar (lowerAscii c) = true) ∧ r.count '-' ≤ 1) :
    (∀ c ∈ pre ++ r, isLiteralChar (lowerAscii c) = true) ∧ (pre ++ r).count '-' ≤ 1 := by
  have hnone : pre.count '-' = 0 := List.count_eq_zero.mpr fun hm => by
    rcases hpre '-' hm with h | h
    · simp [Decimal.isDigit] at h
    · cases h
  refine ⟨fun c hc => ?_, by simpa [List.count_append, hnone] using hr.2⟩
  rcases List.mem_append.mp hc with hc | hc
  · rcases hpre c hc with hd | rfl
    · simp [isLiteralChar, lowerAscii_of_isDigit hd, hd]
    · decide
  · exact hr.1 c hc

/-- An unsigned decimal number is digits, a point and digits, and an exponent mark followed by
a signed number. -/
theorem chars_of_readUnsigned {cs : List Char} {p : Nat × Int} (h : readUnsigned cs = some p) :
    (∀ c ∈ cs, isLiteralChar (lowerAscii c) = true) ∧ cs.count '-' ≤ 1 := by
  unfold readUnsigned at h
  dsimp only at h
  have hsplit (xs : List Char) : (Decimal.spanDigits xs).1 ++ (Decimal.spanDigits xs).2 = xs :=
    List.takeWhile_append_dropWhile
  have hdigits (xs : List Char) : ∀ c ∈ (Decimal.spanDigits xs).1, Decimal.isDigit c = true :=
    fun _ hc => List.mem_takeWhile_imp hc
  split at h
  · -- digits, a point, digits, then the exponent part
    rename_i t ht
    split at h
    · cases h
    · have hcs : cs = ((Decimal.spanDigits cs).1 ++ '.' :: (Decimal.spanDigits t).1) ++
          (Decimal.spanDigits t).2 := by
        rw [List.append_assoc, List.cons_append, hsplit t, ← ht, hsplit]
      rw [hcs]
      refine chars_append_of_digitsOrPoint (fun c hc => ?_) (chars_of_exponentPart h)
      rcases List.mem_append.mp hc with hc | hc
      · exact .inl (hdigits cs c hc)
      · rcases List.mem_cons.mp hc with rfl | hc
        · exact .inr rfl
        · exact .inl (hdigits t c hc)
  · -- digits, then the exponent part
    split at h
    · cases h
    · rw [← hsplit cs]
      exact chars_append_of_digitsOrPoint (fun c hc => .inl (hdigits cs c hc))
        (chars_of_exponentPart h)

/-- The words `nan`, `inf` and `infinity`, in any case, hold literal characters and no
hyphen. -/
theorem chars_of_word {rest : List Char}
    (hw : rest.map lowerAscii = ['n', 'a', 'n'] ∨ rest.map lowerAscii = ['i', 'n', 'f'] ∨
      rest.map lowerAscii = "infinity".toList) :
    (∀ c ∈ rest, isLiteralChar (lowerAscii c) = true) ∧ rest.count '-' ≤ 1 := by
  have hword : ∀ x ∈ rest.map lowerAscii, isLiteralChar x = true ∧ x ≠ '-' := by
    rcases hw with hw | hw | hw <;> rw [hw] <;> simp [isLiteralChar, Decimal.isDigit]
  refine ⟨fun c hc => (hword _ (List.mem_map_of_mem hc)).1, ?_⟩
  have hnone : rest.count '-' = 0 := List.count_eq_zero.mpr fun hm =>
    (hword _ (List.mem_map_of_mem hm)).2 (by decide)
  omega

/-- A float literal is written with literal characters, in either case, and has at most two
hyphens: its sign and its exponent's. -/
theorem chars_of_read? {cs : List Char} {l : DecimalLiteral} (h : read? cs = some l) :
    (∀ c ∈ cs, isLiteralChar (lowerAscii c) = true) ∧ cs.count '-' ≤ 2 := by
  unfold read? at h
  split at h
  rename_i neg rest hsign
  have hrest : (∀ c ∈ rest, isLiteralChar (lowerAscii c) = true) ∧ rest.count '-' ≤ 1 := by
    split at h
    · cases h
    · split at h
      · rename_i hu
        exact chars_of_readUnsigned hu
      · dsimp only at h
        split at h
        · rename_i hnan
          exact chars_of_word (.inl hnan)
        · split at h
          · rename_i hinf
            simp only [Bool.or_eq_true, decide_eq_true_eq] at hinf
            exact chars_of_word (.inr hinf)
          · cases h
  rcases eq_of_signSplit hsign with rfl | rfl | rfl
  · exact ⟨hrest.1, by omega⟩
  · refine ⟨fun c hc => ?_, by simpa using Nat.le_succ_of_le hrest.2⟩
    rcases List.mem_cons.mp hc with rfl | hc
    · decide
    · exact hrest.1 c hc
  · refine ⟨fun c hc => ?_, by simpa using hrest.2⟩
    rcases List.mem_cons.mp hc with rfl | hc
    · decide
    · exact hrest.1 c hc

end DecimalLiteral

namespace Reading

/-- A boolean is spelled with the letters of `true` and `false`, in either case. -/
theorem boolChar_of_boolean? {cs : List Char} {b : Bool} (h : boolean? cs = some b) :
    ∀ c ∈ cs, DecimalLiteral.lowerAscii c ∈ "truefals".toList := by
  unfold boolean? at h
  dsimp only at h
  have hword : cs.map DecimalLiteral.lowerAscii = "true".toList ∨
      cs.map DecimalLiteral.lowerAscii = "false".toList := by
    split_ifs at h with h1 h2
    · exact .inl h1
    · exact .inr h2
  intro c hc
  have hm : DecimalLiteral.lowerAscii c ∈ cs.map DecimalLiteral.lowerAscii := List.mem_map_of_mem hc
  rcases hword with hw | hw <;> rw [hw] at hm
  · exact (by simp : ∀ x ∈ "true".toList, x ∈ "truefals".toList) _ hm
  · exact (by simp : ∀ x ∈ "false".toList, x ∈ "truefals".toList) _ hm

end Reading

namespace Uuid

/-- A hex digit of either case. -/
def isHex (c : Char) : Bool := (hexValue? c).isSome

/-- Hex digits are read one by one, so a number read from hex digits has only hex digits. -/
theorem isHex_of_foldlM {cs : List Char} {a n : Nat}
    (h : cs.foldlM (fun n c => (hexValue? c).map fun d => 16 * n + d) a = some n) :
    ∀ c ∈ cs, isHex c = true := by
  induction cs generalizing a with
  | nil => simp
  | cons c cs ih =>
    rw [List.foldlM_cons] at h
    cases hc : hexValue? c with
    | none => simp [hc] at h
    | some d =>
      simp only [hc, Option.map_some] at h
      intro x hx
      rcases List.mem_cons.mp hx with rfl | hx
      · simp [isHex, hc]
      · exact ih h x hx

theorem isHex_of_readSimple? {cs : List Char} {u : Uuid} (h : readSimple? cs = some u) :
    cs.length = 32 ∧ ∀ c ∈ cs, isHex c = true := by
  unfold readSimple? at h
  split_ifs at h with hlen
  obtain ⟨n, hn, -⟩ := Option.map_eq_some_iff.mp h
  exact ⟨hlen, isHex_of_foldlM hn⟩

/-- The character at a position of a list lies in every window of the list around it. -/
theorem getElem_mem_window {cs : List Char} {a b i : Nat} (hi : i < cs.length) (ha : a ≤ i)
    (hb : i < a + b) : cs[i] ∈ (cs.drop a).take b := by
  have hlen : i - a < ((cs.drop a).take b).length := by
    simp only [List.length_take, List.length_drop]
    omega
  have hmem := List.getElem_mem hlen
  simpa only [List.getElem_take, List.getElem_drop, Nat.add_sub_cancel' ha] using hmem

/-- A hyphenated UUID has hex digits everywhere but at its four hyphens, and starts with a hex
digit. -/
theorem isHex_of_readHyphenated? {cs : List Char} {u : Uuid} (h : readHyphenated? cs = some u) :
    (∀ c ∈ cs, isHex c = true ∨ c = '-') ∧ ∀ c ∈ cs.head?, isHex c = true := by
  unfold readHyphenated? at h
  split_ifs at h with hcond
  simp only [Bool.and_eq_true, beq_iff_eq, decide_eq_true_eq] at hcond
  obtain ⟨⟨⟨⟨hlen, h8⟩, h13⟩, h18⟩, h23⟩ := hcond
  have hds := (isHex_of_readSimple? h).2
  -- every position outside the hyphens lies in one of the five groups of digits
  have hpos : ∀ i (hi : i < cs.length), isHex cs[i] = true ∨ cs[i] = '-' := by
    intro i hi
    have hsome : cs[i]? = some cs[i] := List.getElem?_eq_getElem hi
    by_cases hh : i = 8 ∨ i = 13 ∨ i = 18 ∨ i = 23
    · right
      rcases hh with rfl | rfl | rfl | rfl
      · exact Option.some.inj (hsome.symm.trans h8)
      · exact Option.some.inj (hsome.symm.trans h13)
      · exact Option.some.inj (hsome.symm.trans h18)
      · exact Option.some.inj (hsome.symm.trans h23)
    · left
      apply hds
      simp only [List.mem_append]
      rcases (by omega : i < 8 ∨ (9 ≤ i ∧ i < 13) ∨ (14 ≤ i ∧ i < 18) ∨ (19 ≤ i ∧ i < 23) ∨
          24 ≤ i) with hw | hw | hw | hw | hw
      · have := getElem_mem_window hi (Nat.zero_le i) (by omega : i < 0 + 8)
        rw [List.drop_zero] at this
        exact .inl (.inl (.inl (.inl this)))
      · exact .inl (.inl (.inl (.inr (getElem_mem_window hi hw.1 (by omega)))))
      · exact .inl (.inl (.inr (getElem_mem_window hi hw.1 (by omega))))
      · exact .inl (.inr (getElem_mem_window hi hw.1 (by omega)))
      · have := getElem_mem_window hi hw (by omega : i < 24 + cs.length)
        rw [List.take_of_length_le (by simp)] at this
        exact .inr this
  refine ⟨fun c hc => ?_, fun c hc => ?_⟩
  · obtain ⟨i, hi, rfl⟩ := List.getElem_of_mem hc
    exact hpos i hi
  · have h0 : 0 < cs.length := by omega
    rw [List.head?_eq_getElem?, List.getElem?_eq_getElem h0, Option.mem_def,
      Option.some.injEq] at hc
    subst hc
    -- the first group of eight digits starts the text
    have hw := getElem_mem_window h0 (Nat.zero_le 0) (by omega : 0 < 0 + 8)
    rw [List.drop_zero] at hw
    exact hds _ (by simp only [List.mem_append]; exact .inl (.inl (.inl (.inl hw))))

theorem toLower_of_isDigit {c : Char} (h : Decimal.isDigit c = true) : c.toLower = c := by
  have hall : ∀ k, k < 10 → (Char.ofNat (48 + k)).toLower = Char.ofNat (48 + k) := by decide
  simp only [Decimal.isDigit, Bool.and_eq_true, decide_eq_true_eq] at h
  have h1 : 48 ≤ c.toNat := h.1
  have h2 : c.toNat ≤ 57 := h.2
  have := hall (c.toNat - 48) (by omega)
  rwa [Nat.add_sub_cancel' h1, Char.ofNat_toNat] at this

/-- The first character of the `urn:` form, in lower case, is `u`. -/
theorem toLower_head_of_urn {cs : List Char}
    (h : (cs.take 9).map Char.toLower = "urn:uuid:".toList) : ∀ c ∈ cs.head?, c.toLower = 'u' := by
  intro c hc
  cases cs with
  | nil => cases hc
  | cons x r =>
    cases hc
    simp only [List.take_succ_cons, List.map_cons] at h
    exact (List.cons.inj h).1

/-- A UUID text starts with a hex digit, a brace, or the `u` of `urn:` in either case. -/
theorem head_of_read? {cs : List Char} {u : Uuid} (h : read? cs = some u) :
    ∀ c ∈ cs.head?, isHex c = true ∨ c = '{' ∨ c.toLower = 'u' := by
  unfold read? at h
  split_ifs at h with hascii h32 h36 h38 h45
  · exact fun c hc => .inl ((isHex_of_readSimple? h).2 c (List.mem_of_mem_head? hc))
  · exact fun c hc => .inl ((isHex_of_readHyphenated? h).2 c hc)
  · simp only [Bool.and_eq_true, beq_iff_eq, decide_eq_true_eq] at h38
    intro c hc
    rw [h38.1.2, Option.mem_def, Option.some.injEq] at hc
    exact .inr (.inl hc.symm)
  · simp only [Bool.and_eq_true, beq_iff_eq, decide_eq_true_eq] at h45
    exact fun c hc => .inr (.inr (toLower_head_of_urn h45.2 c hc))

/-- A UUID text that starts with a decimal digit holds hex digits and hyphens only. -/
theorem isHex_of_read? {cs : List Char} {u : Uuid} (h : read? cs = some u)
    (hd : ∀ c ∈ cs.head?, Decimal.isDigit c = true) : ∀ c ∈ cs, isHex c = true ∨ c = '-' := by
  unfold read? at h
  split_ifs at h with hascii h32 h36 h38 h45
  · exact fun c hc => .inl ((isHex_of_readSimple? h).2 c hc)
  · exact (isHex_of_readHyphenated? h).1
  · -- a brace is not a digit
    simp only [Bool.and_eq_true, beq_iff_eq, decide_eq_true_eq] at h38
    have := hd '{' h38.1.2
    simp [Decimal.isDigit] at this
  · -- nor is the `u` of `urn:`
    simp only [Bool.and_eq_true, beq_iff_eq, decide_eq_true_eq] at h45
    obtain ⟨c, hc⟩ : ∃ c, cs.head? = some c := by
      cases cs with
      | nil => simp at h45
      | cons x r => exact ⟨x, rfl⟩
    have hdc := hd c hc
    have hu := toLower_head_of_urn h45.2 c hc
    rw [toLower_of_isDigit hdc] at hu
    subst hu
    simp [Decimal.isDigit] at hdc

end Uuid

end RecordQuery
