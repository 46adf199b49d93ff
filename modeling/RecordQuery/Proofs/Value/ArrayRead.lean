import RecordQuery.Proofs.Value.ArrayText

/-!
# Reading written arrays back

An array text is read by the first reading that accepts every element (`readArray_value`),
so the items of a written array come back in one reading chosen for all of them together,
not each in its own. What an item stands for, when a list literal is compared with a field,
is the scalar it reads as (`Value.asScalar?`): that survives the round trip exactly when
the reading chosen for the whole array is the text reading, the array reading, or the
reading each item would get on its own (`Value.ItemWritable.asScalar?_of_valueOn`). The
condition `Value.ReadTogether` makes one of these hold, and then the array read back stands
item by item for what the written one stood for (`Value.read_toText_array_asScalar?`).

Read as text, a written array gives back the texts of its items
(`Value.readCharsAsText_toText_array`).
-/

namespace RecordQuery

open Text

section CollectAll

variable {α β : Type} {f : α → Logged (Option β)}

/-- One item that gives nothing stops the collection. -/
theorem collectAll_value_eq_none {xs : List α} {a : α} (ha : a ∈ xs) (h : (f a).value = none) :
    (collectAll xs f).value = none := by
  induction xs with
  | nil => cases ha
  | cons x xs ih =>
    rw [collectAll, Logged.value_bind]
    rcases List.mem_cons.mp ha with rfl | ha
    · rw [h]
      rfl
    · cases hx : (f x).value with
      | none => rfl
      | some b =>
        simp only [Logged.value_bind, ih ha]
        rfl

/-- When every item gives something, the collection gives all of it, in order. -/
theorem collectAll_value_of_isSome {xs : List α} (h : ∀ a ∈ xs, ((f a).value).isSome) :
    (collectAll xs f).value = some (xs.filterMap fun a => (f a).value) := by
  induction xs with
  | nil => rfl
  | cons a xs ih =>
    obtain ⟨b, hb⟩ := Option.isSome_iff_exists.mp (h a List.mem_cons_self)
    rw [collectAll, Logged.value_bind, hb]
    simp only [Logged.value_bind, ih fun a' ha' => h a' (List.mem_cons_of_mem a ha')]
    simp [hb]

/-- Keeping what a partial function gives, when it gives something on every item, and mapping
the results is mapping the items. -/
theorem map_filterMap_eq_map {γ : Type} {l : List α} {g : α → Option β} {k : β → γ}
    {m : α → γ} (h : ∀ a ∈ l, ∃ b, g a = some b ∧ k b = m a) :
    (l.filterMap g).map k = l.map m := by
  induction l with
  | nil => rfl
  | cons a l ih =>
    obtain ⟨b, hb, hk⟩ := h a List.mem_cons_self
    rw [List.filterMap_cons, hb, List.map_cons, List.map_cons, hk,
      ih fun a' ha' => h a' (List.mem_cons_of_mem a ha')]

end CollectAll

namespace Reading

/-- The first reading, in the order readings are tried, that gives something on each of the
texts. The text reading gives something on every text, so there always is one. -/
def firstForAll (es : List (List Char)) : Reading :=
  (all.find? fun r => es.all fun e => (valueOn e r).isSome).getD .text

theorem valueOn_text (cs : List Char) :
    valueOn cs .text = some (.text (String.ofList (Text.trimChars cs))) := rfl

/-- The first reading for every text gives something on each of them, and each reading tried
before it refuses one of them. -/
theorem firstForAll_spec (es : List (List Char)) :
    (∀ e ∈ es, (valueOn e (firstForAll es)).isSome) ∧
      ∀ r ∈ (firstForAll es).before, ∃ e ∈ es, valueOn e r = none := by
  set P : Reading → Bool := fun r => es.all fun e => (valueOn e r).isSome with hP
  have htext : P .text = true := by simp [hP, valueOn_text]
  obtain ⟨R, hfind⟩ : ∃ R, all.find? P = some R := by
    cases h : all.find? P with
    | some R => exact ⟨R, rfl⟩
    | none => exact absurd htext (by simpa using List.find?_eq_none.mp h .text (by decide))
  have hR : firstForAll es = R := by simp [firstForAll, ← hP, hfind]
  obtain ⟨hPR, pre, post, hall, hpre⟩ := List.find?_eq_some_iff_append.mp hfind
  have hbefore : R.before = pre := by
    rw [before, hall, List.takeWhile_append_of_pos]
    · simp
    · intro r hr
      have hne : r ≠ R := by
        rintro rfl
        have := hpre r hr
        rw [hPR] at this
        cases this
      simpa using hne
  rw [hR, hbefore]
  refine ⟨by simpa [hP] using hPR, fun r hr => ?_⟩
  have := hpre r hr
  simp [hP] at this
  obtain ⟨e, he, hnone⟩ := this
  exact ⟨e, he, by simpa using hnone⟩

/-- A reading other than the text and array readings gives neither a text nor an array. -/
theorem valueOn_isScalar {r : Reading} (hr : r ≠ .text) (ha : r ≠ .array) {cs : List Char}
    {v : Value} (h : valueOn cs r = some v) : v.isArray = false ∧ v.isText = false := by
  cases r with
  | text => exact absurd rfl hr
  | array => exact absurd rfl ha
  | float =>
    simp only [valueOn, scalar?] at h
    split at h
    · split at h
      · cases h
        exact ⟨rfl, rfl⟩
      · cases h
    · cases h
  | _ =>
    simp only [valueOn, scalar?, Option.map_eq_some_iff] at h
    obtain ⟨_, -, rfl⟩ := h
    exact ⟨rfl, rfl⟩

end Reading

open Reading

/-- A text that is not an array text is not read as an array. -/
theorem readArray_of_elements?_eq_none {cs : List Char} (h : Elements.elements? cs = none) :
    readArray cs = pure none := by
  rw [readArray]
  split
  · rfl
  all_goals
    rename_i heq
    rw [h] at heq
    cases heq

/-- An array text is read by the first reading that gives something on each of its elements,
each element as that reading gives it. -/
theorem readArray_value {cs : List Char} {es : List (List Char)}
    (h : Elements.elements? cs = some es) :
    (readArray cs).value = some (.array (es.filterMap fun e => valueOn e (firstForAll es))) := by
  obtain ⟨hacc, hpre⟩ := firstForAll_spec es
  -- whatever the readings log, each is judged by what it gives on the elements
  have hfirst : ∀ G : Reading → {e // e ∈ es} → Logged (Option Value),
      (∀ r x, (G r x).value = valueOn x.1 r) →
        (firstOf all fun r => collectAll es.attach (G r)).value =
          some (firstForAll es, es.filterMap fun e => valueOn e (firstForAll es)) := by
    intro G hG
    refine firstOf_value_of_first (fun r hr => ?_) ?_
    · obtain ⟨e, he, hnone⟩ := hpre r hr
      exact collectAll_value_eq_none (List.mem_attach es ⟨e, he⟩) ((hG r _).trans hnone)
    · rw [collectAll_value_of_isSome fun x _ => (hG _ x).symm ▸ hacc x.1 x.2]
      simp only [hG]
      generalize firstForAll es = R
      conv_rhs => rw [← List.attach_map_subtype_val es, List.filterMap_map]
      rfl
  rw [readArray]
  split
  · rename_i hnone
    rw [h] at hnone
    cases hnone
  · rename_i hnil
    rw [h, Option.some.injEq] at hnil
    subst hnil
    rfl
  · rename_i es' _ hsome
    rw [h, Option.some.injEq] at hsome
    subst hsome
    rw [Logged.value_bind, hfirst _ (fun r x => by cases r <;> rfl)]
    rfl

namespace Reading

/-- The first reading that accepts a text on its own. -/
def first (cs : List Char) : Reading := firstForAll [cs]

/-- Any two readings are equal or one is tried before the other. -/
theorem eq_or_mem_before (r r' : Reading) : r = r' ∨ r ∈ r'.before ∨ r' ∈ r.before := by
  cases r <;> cases r' <;> simp

/-- A reading tried before one that every reading before it refuses on some text is not the
first reading for a list of texts holding that text. -/
theorem firstForAll_not_mem_before {es : List (List Char)} {e : List Char} (he : e ∈ es)
    {r : Reading} (hr : ∀ r' ∈ r.before, valueOn e r' = none) :
    firstForAll es ∉ r.before := by
  intro hmem
  have := (firstForAll_spec es).1 e he
  rw [hr _ hmem] at this
  cases this

/-- Only the text reading is tried after the array reading. -/
theorem eq_text_of_array_mem_before {r : Reading} (h : Reading.array ∈ r.before) : r = .text := by
  cases r <;> simp_all

/-- The text reading is tried last. -/
theorem text_not_mem_before (r : Reading) : Reading.text ∉ r.before := by
  cases r <;> simp

/-- A reading that gives something on each text, tried after readings that each refuse one of
them, is the first reading for every text. -/
theorem firstForAll_eq {es : List (List Char)} {r : Reading}
    (hacc : ∀ e ∈ es, (valueOn e r).isSome)
    (hpre : ∀ r' ∈ r.before, ∃ e ∈ es, valueOn e r' = none) :
    firstForAll es = r := by
  obtain ⟨hacc', hpre'⟩ := firstForAll_spec es
  rcases eq_or_mem_before (firstForAll es) r with h | h | h
  · exact h
  · obtain ⟨e, he, hnone⟩ := hpre _ h
    have := hacc' e he
    rw [hnone] at this
    cases this
  · obtain ⟨e, he, hnone⟩ := hpre' _ h
    have := hacc e he
    rw [hnone] at this
    cases this

end Reading

namespace Value

open Reading

/-- A text is read as its first accepting reading gives it. -/
theorem firstAccepts_first (s : String) : FirstAccepts s.toList (first s.toList) (read s) := by
  obtain ⟨hacc, hpre⟩ := firstForAll_spec [s.toList]
  obtain ⟨v, hv⟩ := Option.isSome_iff_exists.mp (hacc s.toList List.mem_cons_self)
  have h : FirstAccepts s.toList (first s.toList) v :=
    ⟨fun r hr => by simpa using hpre r hr, hv⟩
  rwa [read_eq_of_firstAccepts h]

theorem itemsWritable_of_mem {items : List Value} (h : ItemsWritable items) {w : Value}
    (hw : w ∈ items) : w.ItemWritable := by
  induction items with
  | nil => cases hw
  | cons v vs ih =>
    rw [itemsWritable_cons] at h
    rcases List.mem_cons.mp hw with rfl | hw
    · exact h.1
    · exact ih h.2 hw

/-- A written array is read by the first reading that accepts each of its items' texts. -/
theorem read_toText_array {items : List Value} (h : ItemsWritable items) :
    read (array items).toText = .array ((items.map (·.toText.toList)).filterMap
      fun e => valueOn e (firstForAll (items.map (·.toText.toList)))) := by
  have helems := Elements.elements?_toText_array h
  refine read_eq_of_firstAccepts ⟨fun r hr => valueOn_eq_none_of_bracket ?_ hr, ?_⟩
  · rw [Text.trimChars_eq_self_iff.mpr (endsNotBlank_toText (fun s => by simp))]
    simp [Value.toText]
  · exact readArray_value helems

/-- What a value stands for as an item of a list literal: a scalar stands for itself, a text
for the scalar it reads as, if it reads as one, and an array for nothing. -/
def asScalar? : Value → Option Value
  | .array _ => none
  | .text s => if (read s).isArray || (read s).isText then none else some (read s)
  | w => some w

/-- Reading a text does not change what it stands for. -/
theorem asScalar?_read (s : String) : (read s).asScalar? = (text s).asScalar? := by
  cases h : read s with
  | text t =>
    obtain rfl := read_eq_text h
    simp [asScalar?, read_trim, h, isText]
  | array _ => simp [asScalar?, h, isArray]
  | _ => simp [asScalar?, h, isArray, isText]

/-- The text of an item stands for what the item stands for. -/
theorem asScalar?_text_toText {w : Value} (h : w.ItemWritable) :
    (text w.toText).asScalar? = w.asScalar? := by
  cases w with
  | text s => rfl
  | array inner =>
    rw [itemWritable_array] at h
    simp [asScalar?, read_toText_array h, isArray]
  | _ => simp [asScalar?, read_toText (h.readsBack rfl rfl), isArray, isText]

end Value

theorem Elements.elements?_eq_none_of_head {cs : List Char}
    (h : (Text.trimChars cs).head? ≠ some '[') : elements? cs = none := by
  unfold elements?
  simp [h]

namespace Value

/-- The text of an item that is not an array starts with no bracket, so it has no elements. -/
theorem ItemWritable.elements?_eq_none {w : Value} (h : w.ItemWritable) (hw : w.isArray = false) :
    Elements.elements? w.toText.toList = none := by
  apply Elements.elements?_eq_none_of_head
  rw [Text.trimChars_eq_self_iff.mpr h.toText.2, toText_of_isArray hw]
  intro hh
  exact ((h.scalarText hw).1 '[' (List.mem_of_mem_head? hh)).1 rfl

open Reading

/-- The reading that takes an item's written text on its own: its own reading for a scalar or
an array, the first reading that accepts it for a text. -/
def soloReading : Value → Reading
  | .text s => first s.toList
  | w => w.reading

/-- An item's text, taken by the text reading, by the array reading or by its own reading,
stands for what the item stands for. -/
theorem ItemWritable.asScalar?_of_valueOn {w : Value} (h : w.ItemWritable) {R : Reading}
    (hR : R = .text ∨ R = .array ∨ R = w.soloReading) {v : Value}
    (hv : valueOn w.toText.toList R = some v) : v.asScalar? = w.asScalar? := by
  have htrim := Text.trimChars_eq_self_iff.mpr h.toText.2
  -- the text reading gives the item's own text
  have htext : R = .text → v.asScalar? = w.asScalar? := by
    rintro rfl
    rw [valueOn_text, htrim, String.ofList_toList, Option.some.injEq] at hv
    subst hv
    exact asScalar?_text_toText h
  cases hw : w.isArray
  · -- a scalar or a text item holds no bracket, so the array reading refuses it
    have harray : R ≠ .array := by
      rintro rfl
      rw [valueOn, readArray_of_elements?_eq_none (h.elements?_eq_none hw)] at hv
      cases hv
    rcases hR with hR | hR | rfl
    · exact htext hR
    · exact absurd hR harray
    cases w with
    | text s =>
      have hread : v = read s := Option.some.inj (hv.symm.trans (firstAccepts_first s).accepts)
      rw [hread]
      exact asScalar?_read s
    | array _ => cases hw
    | _ =>
      rw [Option.some.inj (hv.symm.trans (firstAccepts_toText (h.readsBack rfl rfl)).accepts)]
  · obtain ⟨inner, rfl⟩ := isArray_eq_true_iff.mp hw
    rcases hR with hR | rfl | rfl
    · exact htext hR
    all_goals
      obtain ⟨items', rfl⟩ := readArray_value_eq_some hv
      rfl

/-- The items of an array are read back as what they stand for: one of them is an array or is
read on its own as a text, which makes the whole array read as arrays or as texts, or all of
them are read on their own in one same way. -/
def ReadTogether (items : List Value) : Prop :=
  (∃ w ∈ items, w.isArray = true ∨ w.soloReading = .text) ∨
    ∀ w ∈ items, ∀ w' ∈ items, w.soloReading = w'.soloReading

/-- An item's text is accepted by its solo reading and refused by every reading tried before. -/
theorem ItemWritable.solo {w : Value} (h : w.ItemWritable) :
    (valueOn w.toText.toList w.soloReading).isSome ∧
      ∀ r ∈ w.soloReading.before, valueOn w.toText.toList r = none := by
  cases w with
  | text s =>
    have hs := firstAccepts_first s
    exact ⟨Option.isSome_iff_exists.mpr ⟨_, hs.accepts⟩, hs.refused⟩
  | array inner =>
    rw [itemWritable_array] at h
    have hread := readArray_value (Elements.elements?_toText_array h)
    refine ⟨Option.isSome_iff_exists.mpr ⟨_, hread⟩,
      fun r hr => valueOn_eq_none_of_bracket ?_ hr⟩
    rw [Text.trimChars_eq_self_iff.mpr (endsNotBlank_toText (fun s => by simp))]
    simp [Value.toText]
  | _ =>
    have hs := firstAccepts_toText (h.readsBack rfl rfl)
    exact ⟨Option.isSome_iff_exists.mpr ⟨_, hs.accepts⟩, hs.refused⟩

/-- When the items of a written array are read together, the reading of the whole array is the
text reading, the array reading, or the reading each item gets on its own. -/
theorem ReadTogether.firstForAll_mem {items : List Value} (ht : ReadTogether items)
    (h : ItemsWritable items) {w : Value} (hw : w ∈ items) :
    firstForAll (items.map (·.toText.toList)) = .text ∨
      firstForAll (items.map (·.toText.toList)) = .array ∨
      firstForAll (items.map (·.toText.toList)) = w.soloReading := by
  rcases ht with ⟨w0, hw0, h0 | h0⟩ | hsame
  · -- an array item is refused by every reading tried before the array reading
    obtain ⟨inner, rfl⟩ := isArray_eq_true_iff.mp h0
    have hnot : firstForAll (items.map (·.toText.toList)) ∉ Reading.array.before :=
      firstForAll_not_mem_before (List.mem_map_of_mem hw0) (itemsWritable_of_mem h hw0).solo.2
    rcases eq_or_mem_before (firstForAll (items.map (·.toText.toList))) .array with hr | hr | hr
    · exact .inr (.inl hr)
    · exact absurd hr hnot
    · exact .inl (eq_text_of_array_mem_before hr)
  · -- an item read on its own as a text is refused by every reading but the text reading
    have hsolo := (itemsWritable_of_mem h hw0).solo.2
    rw [h0] at hsolo
    rcases eq_or_mem_before (firstForAll (items.map (·.toText.toList))) .text with hr | hr | hr
    · exact .inl hr
    · exact absurd hr (firstForAll_not_mem_before (List.mem_map_of_mem hw0) hsolo)
    · exact absurd hr (text_not_mem_before _)
  · -- every item is read on its own the same way, which then reads them all
    refine .inr (.inr (firstForAll_eq (fun e he => ?_) fun r hr =>
      ⟨_, List.mem_map_of_mem hw, (itemsWritable_of_mem h hw).solo.2 r hr⟩))
    obtain ⟨w', hw', rfl⟩ := List.mem_map.mp he
    rw [hsame w hw w' hw']
    exact (itemsWritable_of_mem h hw').solo.1

/-- A written array whose items are read together is read back as an array whose items stand
for what the written items stand for. -/
theorem read_toText_array_asScalar? {items : List Value} (h : ItemsWritable items)
    (ht : ReadTogether items) :
    ∃ vs, read (array items).toText = .array vs ∧ vs.map asScalar? = items.map asScalar? := by
  refine ⟨_, read_toText_array h, ?_⟩
  have hacc := (firstForAll_spec (items.map (·.toText.toList))).1
  rw [List.filterMap_map]
  refine map_filterMap_eq_map fun w hw => ?_
  obtain ⟨v, hv⟩ := Option.isSome_iff_exists.mp (hacc _ (List.mem_map_of_mem hw))
  exact ⟨v, hv, (itemsWritable_of_mem h hw).asScalar?_of_valueOn (ht.firstForAll_mem h hw) hv⟩

/-- A text that is not an array text is not read as an array. -/
theorem read_isArray_of_elements?_eq_none {s : String} (h : Elements.elements? s.toList = none) :
    (read s).isArray = false := by
  have hacc := (firstAccepts_first s).accepts
  generalize first s.toList = R at hacc
  cases R with
  | array =>
    rw [valueOn, readArray_of_elements?_eq_none h] at hacc
    cases hacc
  | text =>
    rw [valueOn_text, Option.some.injEq] at hacc
    rw [← hacc]
    rfl
  | _ => exact (valueOn_isScalar (by simp) (by simp) hacc).1

/-- A text that is not an array text is read as text, trimmed. -/
theorem readCharsAsText_of_elements?_eq_none {cs : List Char}
    (h : Elements.elements? cs = none) :
    readCharsAsText cs = .text (String.ofList (Text.trimChars cs)) := by
  rw [readCharsAsText]
  split
  · rename_i heq
    rw [h] at heq
    cases heq
  · rfl

/-- A written array is read as text item by item. -/
theorem readCharsAsText_toText_array {items : List Value} (h : ItemsWritable items) :
    readCharsAsText (array items).toText.toList =
      .array (items.map fun w => readCharsAsText w.toText.toList) := by
  rw [readCharsAsText]
  split
  · rename_i es heq
    rw [Elements.elements?_toText_array h, Option.some.injEq] at heq
    subst heq
    simp
  · rename_i heq
    rw [Elements.elements?_toText_array h] at heq
    cases heq

/-- An item that is not an array is read as text as its own text. -/
theorem ItemWritable.readCharsAsText_toText {w : Value} (h : w.ItemWritable)
    (hw : w.isArray = false) : readCharsAsText w.toText.toList = .text w.toText := by
  rw [readCharsAsText_of_elements?_eq_none (h.elements?_eq_none hw),
    Text.trimChars_eq_self_iff.mpr h.toText.2, String.ofList_toList]

/-! ### Arrays of one kind -/

theorem itemsWritable_iff {items : List Value} :
    ItemsWritable items ↔ ∀ w ∈ items, w.ItemWritable := by
  induction items with
  | nil => simp [ItemsWritable]
  | cons v vs ih => rw [itemsWritable_cons, ih, List.forall_mem_cons]

/-- Among scalars that read back, the kind decides the reading. -/
theorem ReadsBack.reading_eq {v w : Value} (hv : v.ReadsBack) (hw : w.ReadsBack)
    (h : v.kind = w.kind) : v.reading = w.reading := by
  cases v <;> cases w <;> simp_all [ReadsBack, kind, reading]

/-- A written array of scalars that read back, all of one kind, is read back as itself: the
reading of that kind accepts the text of every item, and the readings tried before it refuse
the text of any one item. -/
theorem read_toText_array_oneKind {items : List Value} (hne : items ≠ [])
    (hback : ∀ x ∈ items, x.ReadsBack) (hkind : ∀ x ∈ items, ∀ y ∈ items, x.kind = y.kind) :
    read (array items).toText = .array items := by
  obtain ⟨w, hw⟩ := List.exists_mem_of_ne_nil items hne
  -- each item's own reading is `w`'s, and gives the item back
  have hown : ∀ x ∈ items, valueOn x.toText.toList w.reading = some x := fun x hx => by
    rw [← (hback x hx).reading_eq (hback w hw) (hkind x hx w hw)]
    exact (firstAccepts_toText (hback x hx)).accepts
  have hfirst : firstForAll (items.map (·.toText.toList)) = w.reading := by
    refine firstForAll_eq (fun e he => ?_) fun r hr => ?_
    · obtain ⟨x, hx, rfl⟩ := List.mem_map.mp he
      rw [hown x hx]
      rfl
    · exact ⟨_, List.mem_map_of_mem hw, (firstAccepts_toText (hback w hw)).refused r hr⟩
  have hwritable : ItemsWritable items := itemsWritable_iff.mpr fun x hx => by
    cases x with
    | text _ | array _ => exact (hback _ hx).elim
    | _ => exact hback _ hx
  rw [read_toText_array hwritable, hfirst, List.filterMap_map]
  exact congrArg array ((List.filterMap_congr fun x hx => hown x hx).trans List.filterMap_some)

/-- The natural text of a scalar other than a text, or of a non-empty array of such scalars of
one kind, reads back as the value itself. -/
theorem read_toText_natural {v : Value}
    (hv : v.ReadsBack ∨ ∃ items, v = .array items ∧ items ≠ [] ∧ (∀ x ∈ items, x.ReadsBack) ∧
      ∀ x ∈ items, ∀ y ∈ items, x.kind = y.kind) :
    read v.toText = v := by
  rcases hv with hv | ⟨items, rfl, hne, hback, hkind⟩
  · exact read_toText hv
  · exact read_toText_array_oneKind hne hback hkind

/-- Two negative durations with fractions of a second, one of them more than a day long. -/
def negativeDurations : List Value :=
  [.duration ⟨-90061500000000, by decide⟩, .duration ⟨-250000000, by decide⟩]

/-- An array of negative durations with fractions of a second reads back as itself. -/
theorem read_toText_natural_negativeDurations :
    (∃ items, Value.array negativeDurations = .array items ∧ items ≠ [] ∧
      (∀ x ∈ items, x.ReadsBack) ∧ ∀ x ∈ items, ∀ y ∈ items, x.kind = y.kind) ∧
      read (array negativeDurations).toText = .array negativeDurations :=
  have h : ∃ items, Value.array negativeDurations = .array items ∧ items ≠ [] ∧
      (∀ x ∈ items, x.ReadsBack) ∧ ∀ x ∈ items, ∀ y ∈ items, x.kind = y.kind :=
    ⟨_, rfl, by simp [negativeDurations], by simp [negativeDurations, ReadsBack],
      by simp [negativeDurations, kind]⟩
  ⟨h, read_toText_natural (.inr h)⟩

end Value

end RecordQuery
