import RecordQuery.Text.Percent

/-!
# Percent-decoding inverts percent-encoding

Decoding a percent-encoded text gives the text back (`Percent.decode_encode`). The proof
goes through bytes: an escape `%XX` decodes to its byte, a kept character to its UTF-8
bytes, so the encoding of a text decodes to the UTF-8 bytes of the text, and UTF-8 decoding
inverts UTF-8 encoding character by character (`Utf8.decode_encodeChar_append`), which is
where the validity of characters (no surrogates, nothing above U+10FFFF) is used.

Decoding is also the identity on a text without `%`, and an encoding holds only unreserved
characters and `%`; the query-string separators `&`, `=`, `,` and the `+` that stands for a
space never occur in it.
-/

namespace RecordQuery

namespace Utf8

/-- A character's code is below the surrogates, or between them and U+10FFFF. -/
theorem toNat_valid (c : Char) : c.toNat < 0xD800 ∨ (0xDFFF < c.toNat ∧ c.toNat < 0x110000) :=
  c.valid

theorem ofNat_eq {c : Char} {n : Nat} (h : n = c.toNat) : Char.ofNat n = c := by
  rw [h, Char.ofNat_toNat]

/-- The bytes of one character decode to that character, whatever follows them. -/
theorem decode_encodeChar_append (c : Char) (bs : List Nat) :
    decode (encodeChar c ++ bs) = (decode bs).map (c :: ·) := by
  have hv := toNat_valid c
  unfold encodeChar
  rw [decode.eq_def]
  -- one case per length of the encoding; the lead byte selects the same branch of `decode`
  by_cases h1 : c.toNat < 0x80
  · simp [h1]
  by_cases h2 : c.toNat < 0x800
  · simp [h1, h2, isTail]
    rw [if_neg (by omega), if_pos (by omega), if_pos (by omega), ofNat_eq (c := c) (by omega)]
  by_cases h3 : c.toNat < 0x10000
  · simp [h1, h2, h3, isTail]
    -- the bounds on the second byte exclude overlong forms and surrogates
    rw [if_neg (by omega), if_neg (by omega), if_pos (by omega),
      if_pos (by split <;> split <;> omega), ofNat_eq (c := c) (by omega)]
  · simp [h1, h2, h3, isTail]
    rw [if_neg (by omega), if_neg (by omega), if_neg (by omega), if_pos (by omega),
      if_pos (by split <;> split <;> omega), ofNat_eq (c := c) (by omega)]

theorem decode_encode_append (cs : List Char) (bs : List Nat) :
    decode (encode cs ++ bs) = (decode bs).map (cs ++ ·) := by
  induction cs with
  | nil => simp [encode]
  | cons c cs ih =>
    rw [encode, List.flatMap_cons, List.append_assoc, decode_encodeChar_append, ← encode, ih,
      Option.map_map]
    rfl

@[simp] theorem decode_encode (cs : List Char) : decode (encode cs) = some cs := by
  have h := decode_encode_append cs []
  rw [List.append_nil] at h
  rw [h]
  simp [decode]

/-- Every byte of an encoding is below 256. -/
theorem lt_of_mem_encodeChar {c : Char} {b : Nat} (h : b ∈ encodeChar c) : b < 256 := by
  have hv := toNat_valid c
  dsimp only [encodeChar] at h
  split at h
  · simp at h
    omega
  split at h
  · simp at h
    omega
  split at h
  · simp at h
    omega
  · simp at h
    omega

end Utf8

namespace Percent

theorem hexValue?_hexDigitChar {n : Nat} (h : n < 16) : hexValue? (hexDigitChar n) = some n :=
  (by decide : ∀ m : Fin 16, hexValue? (hexDigitChar m) = some m) ⟨n, h⟩

theorem isUnreserved_hexDigitChar {n : Nat} (h : n < 16) : isUnreserved (hexDigitChar n) = true :=
  (by decide : ∀ m : Fin 16, isUnreserved (hexDigitChar m) = true) ⟨n, h⟩

/-- A character other than `%` stands for its own bytes. -/
theorem decodeBytes_cons_of_ne {c : Char} (hc : c ≠ '%') (rest : List Char) :
    decodeBytes (c :: rest) = Utf8.encodeChar c ++ decodeBytes rest := by
  rw [decodeBytes.eq_def]
  split
  · simp_all
  · rename_i h
    cases h
    exact absurd rfl hc
  · rename_i h
    cases h
    rfl

theorem decodeBytes_escapeByte_append {b : Nat} (hb : b < 256) (rest : List Char) :
    decodeBytes (escapeByte b ++ rest) = b :: decodeBytes rest := by
  simp only [escapeByte, List.cons_append, List.nil_append, decodeBytes,
    hexValue?_hexDigitChar (show b / 16 < 16 by omega),
    hexValue?_hexDigitChar (show b % 16 < 16 by omega)]
  congr 1
  omega

/-- Escapes of bytes decode to the bytes. -/
theorem decodeBytes_flatMap_escapeByte_append {bs : List Nat} (h : ∀ b ∈ bs, b < 256)
    (rest : List Char) : decodeBytes (bs.flatMap escapeByte ++ rest) = bs ++ decodeBytes rest := by
  induction bs with
  | nil => rfl
  | cons b bs ih =>
    rw [List.flatMap_cons, List.append_assoc,
      decodeBytes_escapeByte_append (h b List.mem_cons_self),
      ih (fun b' hb' => h b' (List.mem_cons_of_mem b hb'))]
    rfl

/-- The encoding of a character decodes to the character's bytes. -/
theorem decodeBytes_encodeChar_append (c : Char) (rest : List Char) :
    decodeBytes (encodeChar c ++ rest) = Utf8.encodeChar c ++ decodeBytes rest := by
  unfold encodeChar
  split
  · rename_i hc
    have hne : c ≠ '%' := by
      rintro rfl
      exact absurd hc (by decide)
    exact decodeBytes_cons_of_ne hne rest
  · exact decodeBytes_flatMap_escapeByte_append (fun b hb => Utf8.lt_of_mem_encodeChar hb) rest

theorem decodeBytes_flatMap_encodeChar_append (cs rest : List Char) :
    decodeBytes (cs.flatMap encodeChar ++ rest) = Utf8.encode cs ++ decodeBytes rest := by
  induction cs with
  | nil => rfl
  | cons c cs ih =>
    rw [List.flatMap_cons, List.append_assoc, decodeBytes_encodeChar_append, ih]
    simp [Utf8.encode]

/-- Texts encoded one by one and joined with a character other than `%` decode to the bytes of
the joined texts. -/
theorem decodeBytes_intercalate_encode {sep : Char} (hsep : sep ≠ '%') (xs : List String) :
    decodeBytes ([sep].intercalate (xs.map fun x => (encode x).toList)) =
      Utf8.encode ([sep].intercalate (xs.map String.toList)) := by
  match xs with
  | [] => rfl
  | [x] =>
    have h := decodeBytes_flatMap_encodeChar_append x.toList []
    simpa [encode, Utf8.encode, decodeBytes] using h
  | x :: y :: rest =>
    have hrest := decodeBytes_intercalate_encode hsep (y :: rest)
    simp only [List.map_cons, List.intercalate_cons_cons] at hrest ⊢
    rw [encode, String.toList_ofList, List.append_assoc, decodeBytes_flatMap_encodeChar_append,
      List.singleton_append, decodeBytes_cons_of_ne hsep, hrest]
    simp [Utf8.encode]

/-- Without `%`, every character stands for its own bytes. -/
theorem decodeBytes_of_forall_ne {cs : List Char} (h : ∀ c ∈ cs, c ≠ '%') :
    decodeBytes cs = Utf8.encode cs := by
  induction cs with
  | nil => rfl
  | cons c cs ih =>
    rw [decodeBytes_cons_of_ne (h c List.mem_cons_self),
      ih (fun d hd => h d (List.mem_cons_of_mem c hd))]
    rfl

/-- Decoding inverts encoding. -/
@[simp] theorem decode_encode (s : String) : decode (encode s) = some s := by
  have h := decodeBytes_flatMap_encodeChar_append s.toList []
  rw [List.append_nil, show decodeBytes [] = [] from rfl, List.append_nil] at h
  simp [decode, encode, h]

/-- Texts encoded one by one and joined with a character other than `%` decode to the joined
texts: the separator stands for itself. -/
theorem decode_intercalate_encode {sep : Char} (hsep : sep ≠ '%') (xs : List String) :
    decode ((String.singleton sep).intercalate (xs.map encode)) =
      some ((String.singleton sep).intercalate xs) := by
  have h := decodeBytes_intercalate_encode hsep xs
  simp only [decode, String.toList_intercalate, String.toList_singleton, List.map_map]
  simp only [Function.comp_def, h, Utf8.decode_encode, Option.map_some]
  congr 1
  rw [← String.toList_inj, String.toList_ofList, String.toList_intercalate, String.toList_singleton]

/-- A text without `%` decodes to itself. -/
theorem decode_of_forall_ne {s : String} (h : ∀ c ∈ s.toList, c ≠ '%') : decode s = some s := by
  simp [decode, decodeBytes_of_forall_ne h]

/-- An encoding holds only unreserved characters and `%`. -/
theorem isUnreserved_or_eq_of_mem_encodeChar {c d : Char} (h : d ∈ encodeChar c) :
    isUnreserved d = true ∨ d = '%' := by
  unfold encodeChar at h
  split at h
  · rename_i hc
    rw [List.mem_singleton] at h
    subst h
    exact Or.inl hc
  · obtain ⟨b, hb, hd⟩ := List.mem_flatMap.mp h
    have hb256 := Utf8.lt_of_mem_encodeChar hb
    simp only [escapeByte, List.mem_cons, List.not_mem_nil, or_false] at hd
    rcases hd with rfl | rfl | rfl
    · exact Or.inr rfl
    · exact Or.inl (isUnreserved_hexDigitChar (by omega))
    · exact Or.inl (isUnreserved_hexDigitChar (by omega))

theorem isUnreserved_or_eq_of_mem_encode {s : String} {d : Char} (h : d ∈ (encode s).toList) :
    isUnreserved d = true ∨ d = '%' := by
  rw [encode, String.toList_ofList] at h
  obtain ⟨c, -, hc⟩ := List.mem_flatMap.mp h
  exact isUnreserved_or_eq_of_mem_encodeChar hc

/-- A character that is neither unreserved nor `%` never occurs in an encoding. -/
theorem not_mem_encode {s : String} {d : Char} (hd : isUnreserved d = false) (hp : d ≠ '%') :
    d ∉ (encode s).toList := by
  intro h
  rcases isUnreserved_or_eq_of_mem_encode h with h' | h'
  · rw [hd] at h'
    exact Bool.false_ne_true h'
  · exact hp h'

end Percent

end RecordQuery
