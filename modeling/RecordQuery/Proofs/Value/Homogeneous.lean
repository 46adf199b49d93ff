import RecordQuery.Proofs.Value.ArrayRead
import RecordQuery.Proofs.Compile.Mixed

/-!
# Read arrays are homogeneous

Each reading gives values of its own variant (`Reading.valueOn_reading`), and an array text
is read in one reading chosen for all of its elements (`readArray_value`). So the items of a
read array all have the variant of the first reading, in the order readings are tried, that
accepts every element, and since reading an element as an array recurses into a shorter text,
every array in a value read from a text is of one variant at every depth
(`Value.read_homogeneous`).

Two consequences name the usual mixes. An integer text is also a finite float text
(`Reading.valueOn_float_of_integer`), so integers among floats are read as floats; and an
element that only the text reading accepts makes every element a text.
-/

namespace RecordQuery

open Reading

/-! ### Integer texts are float texts -/

namespace DecimalLiteral

/-- Digits alone are read as their number, with no shift of the point. -/
theorem readUnsigned_digits {ds : List Char} (hne : ds ≠ [])
    (hds : ∀ c ∈ ds, Decimal.isDigit c = true) :
    readUnsigned ds = some (Decimal.ofDigits ds, 0) := by
  have hspan : Decimal.spanDigits (ds ++ []) = (ds, []) :=
    Decimal.spanDigits_append hds (by simp)
  rw [List.append_nil] at hspan
  have hlen : ds.length ≠ 0 := fun h => hne (List.eq_nil_of_length_eq_zero h)
  simp [readUnsigned, hspan, hlen]

/-- A whole number below `2^1023`, written without a point, is read as a finite double. -/
theorem isFinite_toBinary64_number (neg : Bool) {M : Nat} (hM : M < 2 ^ 1023) :
    (number neg M 0).toBinary64.isFinite = true := by
  rcases Nat.eq_zero_or_pos M with rfl | hpos
  · -- a zero of either sign
    cases neg <;> decide +kernel
  · -- at most 309 digits, so the number is rounded like the integer it is
    have hten : (2 : Nat) ^ 1023 < 10 ^ 309 := by decide +kernel
    have hdigits : Decimal.digitCount M ≤ 309 :=
      Decimal.length_natDigits_le (by norm_num) (hM.trans hten)
    have hnonneg : ¬ ((M : Int) < 0) := by omega
    have hint : (number neg M 0).toBinary64 = Binary64.ofInt (if neg then -(M : Int) else M) := by
      rw [toBinary64, encodeNumber, if_neg hpos.ne', if_neg (by omega), if_neg (by omega)]
      cases neg <;> simp [Binary64.ofInt, Binary64.ofRat, FloatFormat.encodeRat, hpos, hnonneg]
    have hsize : (if neg then -(M : Int) else M).natAbs = M := by
      cases neg
      · exact Int.natAbs_natCast M
      · rw [if_pos rfl, Int.natAbs_neg, Int.natAbs_natCast]
    rw [hint]
    apply Binary64.isFinite_ofInt
    rw [hsize]
    exact hM

end DecimalLiteral

/-- A text that is an integer is also a finite float. -/
theorem Binary64.read?_of_int128_read? {cs : List Char} {n : Int128}
    (h : Int128.read? cs = some n) : ∃ x, read? cs = some x ∧ x.isFinite = true := by
  obtain ⟨ds, hcs, hds⟩ := Int128.signedDigits_of_read? h
  have hne : ds ≠ [] := by
    rintro rfl
    rcases hcs with rfl | rfl | rfl <;> simp [Int128.read?] at h
  -- both readers take the same sign and digits
  have hsame : ∃ neg, DecimalLiteral.read? cs = some (.number neg (Decimal.ofDigits ds) 0) ∧
      n.val.natAbs = Decimal.ofDigits ds := by
    have hall : ds.all Decimal.isDigit = true := List.all_eq_true.mpr hds
    have hu := DecimalLiteral.readUnsigned_digits hne hds
    rcases hcs with rfl | rfl | rfl
    · rw [Int128.read?_digits hne hds] at h
      refine ⟨false, by simpa using DecimalLiteral.read?_sign false hu, ?_⟩
      rw [Int128.ofInt?_val h]
      rfl
    · have hplus : Int128.read? ('+' :: ds) = Int128.ofInt? (Decimal.ofDigits ds) := by
        simp [Int128.read?, List.isEmpty_eq_false_iff.mpr hne, hall]
      rw [hplus] at h
      refine ⟨false, by simp [DecimalLiteral.read?, hu, List.isEmpty_eq_false_iff.mpr hne], ?_⟩
      rw [Int128.ofInt?_val h]
      rfl
    · rw [Int128.read?_minus_digits hne hds] at h
      refine ⟨true, by simpa using DecimalLiteral.read?_sign true hu, ?_⟩
      rw [Int128.ofInt?_val h]
      omega
  obtain ⟨neg, hread, hsize⟩ := hsame
  refine ⟨_, by rw [read?, hread]; rfl, DecimalLiteral.isFinite_toBinary64_number neg ?_⟩
  rw [← hsize]
  exact n.natAbs_lt

/-! ### Each reading gives its own variant -/

namespace Reading

/-- What a reading gives has the variant of that reading. -/
theorem valueOn_reading {cs : List Char} {r : Reading} {v : Value} (h : valueOn cs r = some v) :
    v.reading = r := by
  cases r with
  | array =>
    obtain ⟨items, rfl⟩ := readArray_value_eq_some h
    rfl
  | float =>
    simp only [valueOn, scalar?] at h
    split at h
    · split at h
      · cases h
        rfl
      · cases h
    · cases h
  | text =>
    simp only [valueOn, scalar?, Option.some.injEq] at h
    subst h
    rfl
  | _ =>
    simp only [valueOn, scalar?, Option.map_eq_some_iff] at h
    obtain ⟨_, -, rfl⟩ := h
    rfl

/-- A text that the integer reading accepts, the float reading accepts too. -/
theorem valueOn_float_of_integer {cs : List Char} (h : (valueOn cs .integer).isSome) :
    (valueOn cs .float).isSome := by
  simp only [valueOn, scalar?, Option.isSome_map] at h
  obtain ⟨n, hn⟩ := Option.isSome_iff_exists.mp h
  obtain ⟨x, hx, hfin⟩ := Binary64.read?_of_int128_read? hn
  simp [valueOn, scalar?, hx, hfin]

/-- The first reading of a text accepts it. -/
theorem valueOn_first_isSome (e : List Char) : (valueOn e (first e)).isSome :=
  (firstForAll_spec [e]).1 e List.mem_cons_self

/-- Each reading tried before the first reading of a text refuses it. -/
theorem valueOn_eq_none_of_mem_before_first {e : List Char} {r : Reading}
    (hr : r ∈ (first e).before) : valueOn e r = none := by
  obtain ⟨e', he', hnone⟩ := (firstForAll_spec [e]).2 r hr
  rw [List.mem_singleton] at he'
  exact he' ▸ hnone

/-- Integers among floats: when every text is read on its own as an integer or a float, and
one as a float, the float reading is the first that accepts every text. -/
theorem firstForAll_eq_float {es : List (List Char)}
    (hnum : ∀ e ∈ es, first e = .integer ∨ first e = .float) (hfloat : ∃ e ∈ es, first e = .float) :
    firstForAll es = .float := by
  apply firstForAll_eq
  · intro e he
    have hacc := valueOn_first_isSome e
    rcases hnum e he with hint | hflo
    · rw [hint] at hacc
      exact valueOn_float_of_integer hacc
    · rwa [hflo] at hacc
  · -- the text read on its own as a float is refused by the integer reading
    intro r hr
    obtain ⟨e, he, hflo⟩ := hfloat
    exact ⟨e, he, valueOn_eq_none_of_mem_before_first (by rw [hflo]; exact hr)⟩

/-- A text that only the text reading accepts on its own makes the text reading the first
that accepts every text. -/
theorem firstForAll_eq_text {es : List (List Char)} (htext : ∃ e ∈ es, first e = .text) :
    firstForAll es = .text := by
  obtain ⟨e, he, hfirst⟩ := htext
  -- every reading but the text reading is tried before it, and refuses this text
  have hrefused : ∀ r' ∈ Reading.text.before, valueOn e r' = none := fun r' hr' =>
    valueOn_eq_none_of_mem_before_first (by rw [hfirst]; exact hr')
  have hnot := firstForAll_not_mem_before he hrefused
  cases hR : firstForAll es <;> simp_all

end Reading

/-! ### Homogeneous values -/

namespace Value

/-- Every array in a value, at every depth, holds items of one variant. -/
inductive Homogeneous : Value → Prop
  /-- A scalar holds no array. -/
  | scalar {v : Value} : v.isArray = false → Homogeneous v
  /-- An array whose items have one variant and are homogeneous themselves. -/
  | array {items : List Value} : (∀ x ∈ items, ∀ y ∈ items, x.reading = y.reading) →
      (∀ x ∈ items, Homogeneous x) → Homogeneous (.array items)

theorem isArray_eq_false_of_reading {v : Value} (h : v.reading ≠ .array) : v.isArray = false := by
  cases v <;> simp_all [reading, isArray]

/-- Whatever a reading gives is homogeneous: the array reading reads every element in one
reading, and an element read as an array is a shorter text, read the same way. -/
theorem homogeneous_of_valueOn {cs : List Char} {r : Reading} {v : Value}
    (h : valueOn cs r = some v) : v.Homogeneous := by
  cases r with
  | array =>
    cases hes : Elements.elements? cs with
    | none =>
      rw [valueOn, readArray_of_elements?_eq_none hes] at h
      cases h
    | some es =>
      rw [valueOn, readArray_value hes, Option.some.injEq] at h
      subst h
      refine .array (fun x hx y hy => ?_) (fun x hx => ?_)
      · obtain ⟨e, -, hx⟩ := List.mem_filterMap.mp hx
        obtain ⟨e', -, hy⟩ := List.mem_filterMap.mp hy
        rw [valueOn_reading hx, valueOn_reading hy]
      · obtain ⟨e, he, hx⟩ := List.mem_filterMap.mp hx
        exact homogeneous_of_valueOn hx
  | _ => exact .scalar (isArray_eq_false_of_reading (by rw [valueOn_reading h]; decide))
termination_by cs.length
decreasing_by exact Elements.length_lt_of_mem_elements? hes he

/-- The variant of a value read from a text is that of the first reading that accepts it. -/
theorem reading_read (s : String) : (read s).reading = first s.toList :=
  valueOn_reading (firstAccepts_first s).accepts

/-- Every array in a value read from a text holds items of one variant, at every depth. -/
theorem read_homogeneous (s : String) : (read s).Homogeneous :=
  homogeneous_of_valueOn (firstAccepts_first s).accepts

end Value

/-! ### Arrays read from text -/

/-- The items of an array text have the variant of the first reading that accepts every
element. -/
theorem readArray_reading {cs : List Char} {es : List (List Char)}
    (h : Elements.elements? cs = some es) :
    ∃ items, (readArray cs).value = some (.array items) ∧ ∀ x ∈ items, x.reading = firstForAll es :=
  ⟨_, readArray_value h, fun x hx => by
    obtain ⟨e, -, hx⟩ := List.mem_filterMap.mp hx
    exact valueOn_reading hx⟩

/-- An array read from a text is what the array reading gives for the text. -/
theorem Value.readArray_of_read {s : String} {items : List Value} (h : read s = .array items) :
    (readArray s.toList).value = some (.array items) := by
  have hacc := (firstAccepts_first s).accepts
  have hr : first s.toList = .array := by
    rw [← reading_read, h]
    rfl
  rw [hr, h] at hacc
  exact hacc

/-- How array texts are read. Reading ends, since every element of an array text is shorter
than the text. An array read from a text is the one the array reading gives, and the items of
an array text all have the variant of the first reading, in the order readings are tried, that
accepts every element: so integers among floats become floats, and an element that is read on
its own as a text makes every item a text. Every array in a value read from a text holds items
of one variant, at every depth. -/
structure ArraysReadHomogeneous : Prop where
  element_shorter : ∀ {cs : List Char} {es : List (List Char)} {e : List Char},
    Elements.elements? cs = some es → e ∈ es → e.length < cs.length
  read_array : ∀ {s : String} {items : List Value}, Value.read s = .array items →
    (readArray s.toList).value = some (.array items)
  first_accepting : ∀ {cs : List Char} {es : List (List Char)},
    Elements.elements? cs = some es →
      ∃ r items, (readArray cs).value = some (.array items) ∧
        (∀ e ∈ es, (valueOn e r).isSome) ∧ (∀ r' ∈ r.before, ∃ e ∈ es, valueOn e r' = none) ∧
        ∀ x ∈ items, x.reading = r
  numbers_as_floats : ∀ {cs : List Char} {es : List (List Char)},
    Elements.elements? cs = some es →
    (∀ e ∈ es, (Value.read (String.ofList e)).reading = .integer ∨
      (Value.read (String.ofList e)).reading = .float) →
    (∃ e ∈ es, (Value.read (String.ofList e)).reading = .float) →
      ∃ items, (readArray cs).value = some (.array items) ∧ ∀ x ∈ items, x.reading = .float
  texts_absorb : ∀ {cs : List Char} {es : List (List Char)},
    Elements.elements? cs = some es →
    (∃ e ∈ es, (Value.read (String.ofList e)).reading = .text) →
      ∃ items, (readArray cs).value = some (.array items) ∧ ∀ x ∈ items, x.reading = .text
  homogeneous : ∀ s : String, (Value.read s).Homogeneous

theorem arrays_read_homogeneous : ArraysReadHomogeneous where
  element_shorter h he := Elements.length_lt_of_mem_elements? h he
  read_array := Value.readArray_of_read
  first_accepting h := by
    obtain ⟨items, hv, hr⟩ := readArray_reading h
    exact ⟨_, items, hv, (firstForAll_spec _).1, (firstForAll_spec _).2, hr⟩
  numbers_as_floats h hnum hfloat := by
    obtain ⟨items, hv, hr⟩ := readArray_reading h
    -- the reading of an element on its own is the first reading that accepts it
    simp only [Value.reading_read, String.toList_ofList] at hnum hfloat
    exact ⟨items, hv, fun x hx => (hr x hx).trans (firstForAll_eq_float hnum hfloat)⟩
  texts_absorb h htext := by
    obtain ⟨items, hv, hr⟩ := readArray_reading h
    simp only [Value.reading_read, String.toList_ofList] at htext
    exact ⟨items, hv, fun x hx => (hr x hx).trans (firstForAll_eq_text htext)⟩
  homogeneous := Value.read_homogeneous

/-- The elements of `[1, 2.5, -3]` read on their own as integers and a float, so the array is
read as three floats; those of `[1, true, x]` include a text, so it is read as three texts. -/
theorem arrays_read_homogeneous_mixed :
    Elements.elements? "[1, 2.5, -3]".toList = some ["1".toList, " 2.5".toList, " -3".toList] ∧
      (∀ e ∈ ["1".toList, " 2.5".toList, " -3".toList],
        (Value.read (String.ofList e)).reading = .integer ∨
          (Value.read (String.ofList e)).reading = .float) ∧
      (Value.read (String.ofList " 2.5".toList)).reading = .float ∧
      (∃ items, (readArray "[1, 2.5, -3]".toList).value = some (.array items) ∧
        ∀ x ∈ items, x.reading = .float) ∧
      Elements.elements? "[1, true, x]".toList = some ["1".toList, " true".toList, " x".toList] ∧
      (Value.read (String.ofList " x".toList)).reading = .text ∧
      (∃ items, (readArray "[1, true, x]".toList).value = some (.array items) ∧
        ∀ x ∈ items, x.reading = .text) := by
  have hnums : Elements.elements? "[1, 2.5, -3]".toList =
      some ["1".toList, " 2.5".toList, " -3".toList] := by decide +kernel
  have hfloat : (Value.read (String.ofList " 2.5".toList)).reading = .float := by decide +kernel
  have hnum : ∀ e ∈ ["1".toList, " 2.5".toList, " -3".toList],
      (Value.read (String.ofList e)).reading = .integer ∨
        (Value.read (String.ofList e)).reading = .float := by
    intro e he
    simp only [List.mem_cons, List.not_mem_nil, or_false] at he
    rcases he with rfl | rfl | rfl
    · exact .inl (by decide +kernel)
    · exact .inr hfloat
    · exact .inl (by decide +kernel)
  have hmixed : Elements.elements? "[1, true, x]".toList =
      some ["1".toList, " true".toList, " x".toList] := by decide +kernel
  have htext : (Value.read (String.ofList " x".toList)).reading = .text := by decide +kernel
  exact ⟨hnums, hnum, hfloat,
    arrays_read_homogeneous.numbers_as_floats hnums hnum ⟨_, by simp, hfloat⟩, hmixed, htext,
    arrays_read_homogeneous.texts_absorb hmixed ⟨_, by simp, htext⟩⟩

example : (Value.read "[1, 2.5, -3]").asArray?.map (List.map Value.reading) =
    some [.float, .float, .float] := by decide +kernel

example : (Value.read "[1, true, x]").asArray?.map (List.map Value.reading) =
    some [.text, .text, .text] := by decide +kernel

end RecordQuery
