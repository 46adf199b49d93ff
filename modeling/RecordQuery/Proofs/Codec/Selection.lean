import RecordQuery.Proofs.Compile.Literal
import RecordQuery.Proofs.Codec.RoundTrip
import RecordQuery.Proofs.Compile.Apply

/-!
# Encoding and decoding keep what a query selects

A filter read back from its query text is not always the filter that was written: its value is
read again from its text, so the text `1` comes back as the integer `1`, and on text fields the
kept text is read as text instead. What must survive is the condition each filter builds.

`FilterDef.Resendable.sameLiteral` shows that a filter and the filter read back agree on
everything `Condition.build` looks at, on every kind of field, when the filter's value is
resendable (`Value.Resendable`): a scalar that reads back, a trimmed text not written like an
array, or an array whose items an array can hold and that are read together. Then the
definitions read back apply exactly when the originals do and select the same records in the
same order (`applyDefinitions_decode_encode`).

The items of an array must be read together (`Value.ReadTogether`): an array text is read in
the one reading that accepts all its items, so an integer beside a fraction comes back as a
float, and a large integer turned into a float can equal a record's neighbouring integer
(`applyDefinitions_decode_encode_mixed`).
-/

namespace RecordQuery

open Checked Condition

namespace Value

/-- A filter value whose selection survives being written and read back: a scalar that reads
back, a text that is its own trim and is not written like an array, or an array whose items
an array can hold and are read together. -/
def Resendable : Value → Prop
  | .text s => Text.trimChars s.toList = s.toList ∧
      ¬ (s.toList.head? = some '[' ∧ s.toList.getLast? = some ']')
  | .array items => ItemsWritable items ∧ ReadTogether items
  | v => v.ReadsBack

variable {v : Value}

theorem Resendable.readsBack (hv : v.Resendable) (ha : v.isArray = false)
    (ht : v.isText = false) : v.ReadsBack := by
  cases v with
  | text _ => cases ht
  | array _ => cases ha
  | _ => exact hv

/-- The text of a resendable value is its own trim. -/
theorem Resendable.trimChars_toText (hv : v.Resendable) :
    Text.trimChars v.toText.toList = v.toText.toList := by
  cases v with
  | text s => exact hv.1
  | _ => exact Text.trimChars_eq_self_iff.mpr (endsNotBlank_toText (fun s => by simp))

/-- A resendable value that is not an array is not written like one. -/
theorem Resendable.elements?_eq_none (hv : v.Resendable) (ha : v.isArray = false) :
    Elements.elements? v.toText.toList = none := by
  cases v with
  | array _ => cases ha
  | text s =>
    unfold Elements.elements?
    rw [show (text s).toText = s from rfl, hv.1]
    simp only [Bool.and_eq_true, beq_iff_eq, decide_eq_true_eq]
    exact if_neg fun ⟨⟨_, h1⟩, h2⟩ => hv.2 ⟨h1, h2⟩
  | _ =>
    refine Elements.elements?_eq_none_of_head fun hh => ?_
    rw [hv.trimChars_toText] at hh
    exact not_mem_reservedChars_toText (hv.readsBack rfl rfl) '[' (List.mem_of_mem_head? hh)
      (by simp [reservedChars])

/-- The text of a resendable value other than a text starts with neither a star nor an
equals sign. -/
theorem Resendable.head_toText (hv : v.Resendable) (ht : v.isText = false) :
    ∀ c ∈ v.toText.toList.head?, c ≠ '*' ∧ c ≠ '=' := by
  intro c hc
  cases ha : v.isArray
  · have hres := not_mem_reservedChars_toText (hv.readsBack ha ht) c (List.mem_of_mem_head? hc)
    exact ⟨fun h => hres (by simp [h, reservedChars]),
      fun h => hres (by simp [h, reservedChars])⟩
  · obtain ⟨items, rfl⟩ := isArray_eq_true_iff.mp ha
    simp [Value.toText] at hc
    subst hc
    decide

theorem asArray?_eq_none (ha : v.isArray = false) : v.asArray? = none := by
  cases v with
  | array _ => cases ha
  | _ => rfl

/-- On a text field or a field of texts, a resendable value and its text read as text build
the same conditions. -/
theorem Resendable.sameLiteral_readAsText (hv : v.Resendable) {k : ValueKind}
    (hk : k = .text ∨ k = .list .text) : SameLiteral k (readAsText (Text.trim v.toText)) v := by
  have hread : readAsText (Text.trim v.toText) = readCharsAsText v.toText.toList := by
    rw [readAsText, Text.trim, String.toList_ofList, hv.trimChars_toText]
  rw [hread]
  cases ha : v.isArray
  · -- a scalar or a text is read as its own text
    rw [readCharsAsText_of_elements?_eq_none (hv.elements?_eq_none ha), hv.trimChars_toText,
      String.ofList_toList]
    refine ⟨ha.symm, fun _ _ => rfl, ?_, ?_, by rw [asArray?_eq_none ha]; rfl⟩
    · rcases hk with rfl | rfl
      · rw [coerce_value_text, coerce_value_text, ha]
        rfl
      · rw [coerce_value_list, coerce_value_list]
    · rintro e rfl
      obtain rfl : e = .text := by simpa using hk
      rw [coerce_value_text, coerce_value_text, ha]
      rfl
  · obtain ⟨items, rfl⟩ := isArray_eq_true_iff.mp ha
    rw [readCharsAsText_toText_array hv.1]
    refine ⟨rfl, (fun _ h => by cases h), rfl, fun _ _ => rfl, ?_⟩
    simp only [asArray?, Option.map_some, Option.some.injEq, List.filterMap_map]
    refine List.filterMap_congr fun w hw => ?_
    rcases hk with rfl | rfl
    · -- on a text field an item is brought to its own text, and a nested array to nothing
      have hw' := itemsWritable_of_mem hv.1 hw
      cases hwa : w.isArray
      · rw [Function.comp_apply, hw'.readCharsAsText_toText hwa, coerce_value_text,
          coerce_value_text, hwa]
        rfl
      · obtain ⟨inner, rfl⟩ := isArray_eq_true_iff.mp hwa
        rw [Function.comp_apply, readCharsAsText_toText_array (itemWritable_array.mp hw')]
        rfl
    · rw [Function.comp_apply, coerce_value_list, coerce_value_list]

/-- Off text fields, a resendable value and its text read back build the same conditions. -/
theorem Resendable.sameLiteral_read (hv : v.Resendable) {k : ValueKind} (hk : k ≠ .text)
    (hl : k ≠ .list .text) : SameLiteral k (read v.toText) v := by
  cases v with
  | text s =>
    have ha : (read s).isArray = false :=
      read_isArray_of_elements?_eq_none (hv.elements?_eq_none rfl)
    rw [show (text s).toText = s from rfl]
    -- the text and what it reads as stand for the same scalar
    refine ⟨ha, fun h => absurd h hk, ?_, ?_, by rw [asArray?_eq_none ha]; rfl⟩
    · rw [coerce_value_of_ne_text hk, coerce_value_of_ne_text hk, asScalar?_read]
    · rintro e rfl
      have he : e ≠ .text := fun h => hl (h ▸ rfl)
      rw [coerce_value_of_ne_text he, coerce_value_of_ne_text he, asScalar?_read]
  | array items =>
    obtain ⟨vs, hread, hvs⟩ := read_toText_array_asScalar? hv.1 hv.2
    rw [hread]
    refine ⟨rfl, (fun _ h => by cases h), rfl, fun _ _ => rfl, ?_⟩
    simp only [asArray?, Option.map_some, filterMap_coerce_eq hk hvs]
  | _ =>
    rw [read_toText (hv.readsBack rfl rfl)]
    exact SameLiteral.refl

end Value

namespace FilterDef

/-- A filter without kept text whose selection survives encoding and decoding: its field is
not empty, is its own trim and holds no character that starts a token; its value is
resendable; and a text value does not start with `*` under `eq` nor with `=` under `gt` or
`lt`, which would make the token longer. -/
structure Resendable (f : FilterDef) : Prop where
  no_text : f.text = none
  field_ne : f.field.toList ≠ []
  field_trimmed : Text.trimChars f.field.toList = f.field.toList
  field_no_token : ∀ c ∈ f.field.toList, c ∉ Codec.tokenStarts
  value : f.value.Resendable
  eq_not_star : ∀ s, f.value = .text s → f.op = .eq → s.toList.head? ≠ some '*'
  cmp_not_eq :
    ∀ s, f.value = .text s → f.op = .gt ∨ f.op = .lt → s.toList.head? ≠ some '='

variable {f : FilterDef}

theorem Resendable.valueText_eq (h : f.Resendable) : f.valueText = f.value.toText := by
  simp [FilterDef.valueText, h.no_text]

/-- The value text of a resendable filter does not make its token longer. -/
theorem Resendable.not_lengthens (h : f.Resendable) :
    ∀ c ∈ f.valueText.toList.head?, Codec.lengthens f.op c = false := by
  intro c hc
  rw [h.valueText_eq] at hc
  cases ht : f.value.isText
  · have hstar := h.value.head_toText ht c hc
    exact Codec.lengthens_eq_false (fun _ => hstar.1) (fun _ => hstar.2)
  · obtain ⟨s, hs⟩ : ∃ s, f.value = .text s := by
      cases hv : f.value <;> simp_all [Value.isText]
    have hc' : s.toList.head? = some c := by
      rw [hs] at hc
      exact hc
    exact Codec.lengthens_eq_false (fun hop e => h.eq_not_star s hs hop (e ▸ hc'))
      (fun hop e => h.cmp_not_eq s hs hop (e ▸ hc'))

theorem Resendable.splits (h : f.Resendable) : f.Splits :=
  splits_of h.field_ne h.field_trimmed h.field_no_token h.not_lengthens

/-- A resendable filter and the filter read back from its text build the same condition on
every kind of field: on text fields the kept text is read as text, elsewhere the value is
read from the text. -/
theorem Resendable.sameLiteral (h : f.Resendable) (k : ValueKind) :
    SameLiteral k (f.reread.literalFor k) (f.literalFor k) := by
  have hlit : f.literalFor k = f.value := by simp [FilterDef.literalFor, h.no_text]
  rw [hlit]
  by_cases hk : k = .text ∨ k = .list .text
  · have hread : f.reread.literalFor k = Value.readAsText (Text.trim f.value.toText) := by
      rcases hk with rfl | rfl <;> simp [FilterDef.literalFor, reread_eq, h.valueText_eq]
    rw [hread]
    exact h.value.sameLiteral_readAsText hk
  · rw [not_or] at hk
    have hread : f.reread.literalFor k = Value.read f.value.toText := by
      simp [FilterDef.literalFor, reread_eq, h.valueText_eq, hk.1, hk.2]
    rw [hread]
    exact h.value.sameLiteral_read hk.1 hk.2

end FilterDef

/-- Encoding definitions and decoding the query again selects the same records: with
unreserved keys, resendable filters and writable sort keys, the definitions read back apply
exactly when the originals do, and give the same records in the same order. -/
theorem applyDefinitions_decode_encode {α : Type} [Queryable α] {keys : QueryKeys}
    (hk : keys.Unreserved) {d : Definitions} (hf : ∀ f ∈ d.filters, f.Resendable)
    (ho : ∀ o ∈ d.orders, o.Writable) (table : Overrides α) (src : List α) :
    ∃ d2, Checked.result (decode keys (encode keys d)) = .ok d2 ∧
      (Checked.result (applyDefinitions src d2 table)).toOption =
        (Checked.result (applyDefinitions src d table)).toOption := by
  refine ⟨_, Codec.result_decode_encode hk (fun f hmem => (hf f hmem).splits) ho, ?_⟩
  -- each filter read back compiles as the original, and the sort keys come back as they were
  refine applyDefinitions_toOption table ?_ src
  exact compile_toOption_of_map table FilterDef.reread rfl rfl
    fun f hmem => compileFilter_toOption table rfl rfl (hf f hmem).sameLiteral

/-- Active records whose name is the text `007`, by name descending, with the activity given as
a list of booleans. -/
def activeOr007 : Definitions :=
  ⟨[⟨"Active", .mem, .array [.boolean true, .boolean false], none⟩,
    ⟨"Name", .eq, .text "007", none⟩], [⟨"Name", true⟩]⟩

theorem applyDefinitions_decode_encode_activeOr007 :
    ∃ d2, Checked.result (decode {} (encode {} activeOr007)) = .ok d2 ∧
      (Checked.result (applyDefinitions namedRecs d2 {})).toOption =
        (Checked.result (applyDefinitions namedRecs activeOr007 {})).toOption := by
  have hfield : ∀ s : String, s.toList.all (fun c => !Codec.tokenStarts.contains c) = true →
      ∀ c ∈ s.toList, c ∉ Codec.tokenStarts :=
    fun s hs c hc => by simpa using List.all_eq_true.mp hs c hc
  refine applyDefinitions_decode_encode ⟨List.all_eq_true.mp (by decide),
    List.all_eq_true.mp (by decide)⟩ ?_ ?_ {} namedRecs
  · intro f hf
    simp only [activeOr007, List.mem_cons, List.not_mem_nil, or_false] at hf
    rcases hf with rfl | rfl
    · -- two booleans, each read on its own as a boolean
      have hsame : ∀ w ∈ [Value.boolean true, .boolean false],
          ∀ w' ∈ [Value.boolean true, .boolean false], w.soloReading = w'.soloReading := by
        intro w hw w' hw'
        simp only [List.mem_cons, List.not_mem_nil, or_false] at hw hw'
        rcases hw with rfl | rfl <;> rcases hw' with rfl | rfl <;> rfl
      exact ⟨rfl, by decide, by decide, hfield _ (by decide),
        ⟨⟨trivial, trivial, trivial⟩, .inr hsame⟩, (fun s hs => by cases hs),
        (fun s hs => by cases hs)⟩
    · refine ⟨rfl, by decide, by decide, hfield _ (by decide), ⟨by decide, by decide⟩, ?_,
        (fun s hs hop => by simp at hop)⟩
      intro s hs _
      cases hs
      decide
  · intro o ho
    simp only [activeOr007, List.mem_cons, List.not_mem_nil, or_false] at ho
    subst ho
    exact ⟨by decide, by decide, by decide, fun c hc => by cases hc; decide⟩

/-- A list of an integer and a fraction. -/
def idsMixed : Definitions :=
  ⟨[⟨"Id", .mem, .array [Value.read "9007199254740992", Value.read "0.5"], none⟩], []⟩

/-- A record whose identifier is the integer after the list's integer. -/
def bigIdRecs : List Rec := [{ idx := 0, id := 9007199254740993 }]

/-- A list of an integer and a fraction is read back as a list of floats, and the integer, once
a float, equals the next integer: the query read back selects a record that the original does
not. -/
theorem applyDefinitions_decode_encode_mixed :
    (Checked.result (applyDefinitions bigIdRecs idsMixed {})).toOption.map (·.map Rec.idx) =
        some [] ∧
      (Checked.result (decode {} (encode {} idsMixed))).toOption.map (fun d2 =>
        (Checked.result (applyDefinitions bigIdRecs d2 {})).toOption.map (·.map Rec.idx)) =
          some (some [0]) :=
  ⟨by decide +kernel, by decide +kernel⟩

/-- A list of a text of 32 hex digits and a UUID. -/
def uidsTextAndUuid : Definitions :=
  ⟨[⟨"Uid", .mem, .array [.text "00000000000000000000000000000001", .uuid ⟨2⟩], none⟩], []⟩

/-- A record whose UUID is the one those 32 hex digits spell. -/
def uidOneRecs : List Rec := [{ idx := 0, uid := ⟨1⟩ }]

/-- The re-typing alone breaks the round trip, with no number rounded on the way. The text of
32 hex digits, read on its own, is the integer 1, which no UUID equals, so the original list
selects nothing. The written list is read back as two UUIDs, since the UUID reading is the
first that accepts both items, and then it selects the record. -/
theorem applyDefinitions_decode_encode_uuidText :
    (Checked.result (applyDefinitions uidOneRecs uidsTextAndUuid {})).toOption.map
        (·.map Rec.idx) = some [] ∧
      (Checked.result (decode {} (encode {} uidsTextAndUuid))).toOption.map (fun d2 =>
        (Checked.result (applyDefinitions uidOneRecs d2 {})).toOption.map (·.map Rec.idx)) =
          some (some [0]) :=
  ⟨by decide +kernel, by decide +kernel⟩

end RecordQuery
