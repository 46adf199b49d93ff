import RecordQuery.Proofs.Codec.Decode
import RecordQuery.Proofs.Codec.Token
import RecordQuery.Proofs.Value.Print
import RecordQuery.Proofs.Value.Read

/-!
# Decoding an encoded query

A query string is a list of parameters joined with `&` (`encode_eq_intercalate`): one
`KEY[]=…` for each filter, holding the percent-encoded field, token and value text, and one
`KEY=…` for the sort keys. With keys made of unreserved characters, no `&`, `=`, `%` or `+`
of the encoding can be confused with the separators, so decoding reads back every parameter
in turn.

What it reads back (`result_decode_encode`) is each sort key as it was, provided its field
can be written in a sort parameter (`OrderDef.Writable`), and for each filter the filter read
from its value text, provided the text of the parameter splits back at the filter's token
(`FilterDef.Splits`). The round trip of the library (`decode_encode_roundtrip`) gives the
conditions on fields and values under which these hold.
-/

namespace RecordQuery

/-- A separator of a joined list is the separator or a character of one of the parts. -/
theorem mem_intercalate {α : Type} {sep c : α} {xss : List (List α)}
    (h : c ∈ [sep].intercalate xss) : c = sep ∨ ∃ xs ∈ xss, c ∈ xs := by
  induction xss with
  | nil => simp at h
  | cons xs rest ih =>
    cases rest with
    | nil =>
      rw [List.intercalate_singleton] at h
      exact Or.inr ⟨xs, List.mem_cons_self, h⟩
    | cons ys rest =>
      rw [List.intercalate_cons_cons, List.mem_append, List.mem_append, List.mem_singleton] at h
      rcases h with (h | h) | h
      · exact Or.inr ⟨xs, List.mem_cons_self, h⟩
      · exact Or.inl h
      · rcases ih h with h | ⟨zs, hzs, hc⟩
        · exact Or.inl h
        · exact Or.inr ⟨zs, List.mem_cons_of_mem xs hzs, hc⟩

namespace QueryKeys

/-- Both parameter names are made of URL-unreserved characters only (`A-Z a-z 0-9 - _ . ~`). -/
def Unreserved (keys : QueryKeys) : Prop :=
  (∀ c ∈ keys.filter.toList, Percent.isUnreserved c = true) ∧
    ∀ c ∈ keys.order.toList, Percent.isUnreserved c = true

/-- No separator of a query string is unreserved. -/
theorem ne_of_isUnreserved {c : Char} (h : Percent.isUnreserved c = true) :
    c ≠ '=' ∧ c ≠ '%' ∧ c ≠ '+' ∧ c ≠ '&' ∧ c ≠ '?' ∧ c ≠ '[' ∧ c ≠ ',' := by
  refine ⟨?_, ?_, ?_, ?_, ?_, ?_, ?_⟩ <;> · rintro rfl; exact absurd h (by decide)

variable {keys : QueryKeys}

theorem Unreserved.mem_filterParam (hk : keys.Unreserved) {c : Char}
    (hc : c ∈ keys.filterParam.toList) : Percent.isUnreserved c = true ∨ c = '[' ∨ c = ']' := by
  rw [filterParam, String.toList_append, List.mem_append] at hc
  rcases hc with hc | hc
  · exact Or.inl (hk.1 c hc)
  · simp only [show "[]".toList = ['[', ']'] from rfl, List.mem_cons, List.not_mem_nil,
      or_false] at hc
    exact Or.inr hc

/-- The characters of the keys that decoding looks for. -/
theorem Unreserved.keyChars (hk : keys.Unreserved) :
    (∀ c ∈ keys.filterParam.toList, c ≠ '=' ∧ c ≠ '%' ∧ c ≠ '+' ∧ c ≠ '&' ∧ c ≠ '?') ∧
      ∀ c ∈ keys.order.toList, c ≠ '=' ∧ c ≠ '%' ∧ c ≠ '+' ∧ c ≠ '&' ∧ c ≠ '?' := by
  constructor
  · intro c hc
    rcases hk.mem_filterParam hc with hu | rfl | rfl
    · obtain ⟨h1, h2, h3, h4, h5, -⟩ := ne_of_isUnreserved hu
      exact ⟨h1, h2, h3, h4, h5⟩
    all_goals decide
  · intro c hc
    obtain ⟨h1, h2, h3, h4, h5, -⟩ := ne_of_isUnreserved (hk.2 c hc)
    exact ⟨h1, h2, h3, h4, h5⟩

/-- The sort key is not the filter key: only the latter holds `[`. -/
theorem Unreserved.order_ne_filterParam (hk : keys.Unreserved) : keys.order ≠ keys.filterParam := by
  intro h
  have hmem : '[' ∈ keys.order.toList := by
    rw [h, filterParam, String.toList_append]
    simp [show "[]".toList = ['[', ']'] from rfl]
  exact (ne_of_isUnreserved (hk.2 '[' hmem)).2.2.2.2.2.1 rfl

theorem Unreserved.plainKey_filterParam (hk : keys.Unreserved) :
    Codec.PlainKey keys.filterParam := fun c hc =>
  let ⟨h1, h2, h3, _⟩ := hk.keyChars.1 c hc
  ⟨h1, h2, h3⟩

theorem Unreserved.plainKey_order (hk : keys.Unreserved) : Codec.PlainKey keys.order :=
  fun c hc =>
    let ⟨h1, h2, h3, _⟩ := hk.keyChars.2 c hc
    ⟨h1, h2, h3⟩

end QueryKeys

namespace Codec

/-- A parameter `KEY=VALUE` whose key holds no `&` or `?` and whose value holds no `&` is not
empty, holds no `&` and does not start with `?`. -/
theorem param_facts {key value : String} (hk : ∀ c ∈ key.toList, c ≠ '&' ∧ c ≠ '?')
    (hv : '&' ∉ value.toList) :
    (key ++ "=" ++ value).toList ≠ [] ∧ '&' ∉ (key ++ "=" ++ value).toList ∧
      (key ++ "=" ++ value).toList.head? ≠ some '?' := by
  simp only [String.toList_append, show "=".toList = ['='] from rfl, List.append_assoc,
    List.singleton_append]
  refine ⟨by simp, ?_, ?_⟩
  · simp only [List.mem_append, List.mem_cons, not_or]
    exact ⟨fun h => (hk '&' h).1 rfl, by decide, hv⟩
  · cases hkey : key.toList with
    | nil => simp
    | cons c cs =>
      have := (hk c (by simp [hkey])).2
      simpa using this

/-- The parameter of a filter: its key, and its field, token and value text encoded. -/
def filterParamText (keys : QueryKeys) (f : FilterDef) : String :=
  keys.filterParam ++ "=" ++ Percent.encode (f.field ++ f.op.token ++ f.valueText)

/-- The parameter of the sort keys: its key, and the parts of the keys encoded and joined. -/
def orderParamText (keys : QueryKeys) (os : List OrderDef) : String :=
  keys.order ++ "=" ++ ",".intercalate (os.map fun o => Percent.encode o.signedText)

/-- The parameters of the query string of definitions, in order. -/
def encodedParams (keys : QueryKeys) (d : Definitions) : List String :=
  d.filters.map (filterParamText keys) ++
    if d.orders.isEmpty then [] else [orderParamText keys d.orders]

/-- A query string is its parameters joined with `&`. -/
theorem encode_eq_intercalate (keys : QueryKeys) (d : Definitions) :
    encode keys d = "&".intercalate (encodedParams keys d) := by
  unfold encode encodedParams
  split
  · rw [List.append_nil]
    rfl
  · rename_i horders
    cases hf : d.filters with
    | nil => simp [orderParamText, OrderDef.signedText]
    | cons f fs =>
      -- the filter parameters come first, then `&` and the sort parameter
      have hout : ("&".intercalate ((f :: fs).map fun f =>
          keys.filterParam ++ "=" ++ Percent.encode (f.field ++ f.op.token ++ f.valueText))).isEmpty =
            false := by
        rw [String.isEmpty_eq_false_iff, Ne, ← String.toList_eq_nil_iff, String.toList_intercalate]
        cases fs <;> simp [String.toList_append]
      dsimp only
      rw [hout, String.intercalate_append_of_ne_nil (by simp) (by simp), String.intercalate_singleton]
      rw [show filterParamText keys = fun f =>
        keys.filterParam ++ "=" ++ Percent.encode (f.field ++ f.op.token ++ f.valueText) from rfl]
      simp only [Bool.false_eq_true, if_false, orderParamText, OrderDef.signedText,
        String.append_assoc]

end Codec

namespace FilterDef

/-- The filter that decoding reads back from the parameter of a filter: the value read from
the value text, and the value text kept trimmed. -/
def reread (f : FilterDef) : FilterDef := (ofText f.field f.op f.valueText).value

/-- The text of a filter's parameter splits back at the filter's token into its field and
its value text, and the field is trimmed and not empty. -/
structure Splits (f : FilterDef) : Prop where
  split : Codec.findToken (f.field ++ f.op.token ++ f.valueText).toList =
    some (f.field.toList, f.op, f.valueText.toList)
  field_trimmed : Text.trimChars f.field.toList = f.field.toList
  field_ne : f.field.toList ≠ []

end FilterDef

namespace Codec

variable {keys : QueryKeys}

/-- The parameter of a filter that splits back adds the filter read back. -/
theorem result_decodeParam_filterParamText (hk : keys.Unreserved) (d : Definitions) {f : FilterDef}
    (hf : f.Splits) :
    Checked.result (decodeParam keys d (filterParamText keys f).toList) =
      .ok (d.pushFilter f.reread) := by
  have h := result_decodeParam_filter hk.plainKey_filterParam d hf.split hf.field_trimmed
    hf.field_ne
  rwa [String.ofList_toList, String.ofList_toList] at h

/-- The joined parts of sort keys hold no `+` and no `&`: only encodings and commas. -/
theorem not_mem_joined {os : List OrderDef} {c : Char} (hc : c ≠ ',')
    (hu : Percent.isUnreserved c = false) (hp : c ≠ '%') :
    c ∉ (",".intercalate (os.map fun o => Percent.encode o.signedText)).toList := by
  rw [String.toList_intercalate, show ",".toList = [','] from rfl, List.map_map]
  intro h
  rcases mem_intercalate h with h | ⟨xs, hxs, hmem⟩
  · exact hc h
  · obtain ⟨o, -, rfl⟩ := List.mem_map.mp hxs
    exact Percent.not_mem_encode hu hp hmem

/-- The sort parameter of writable keys adds the keys. -/
theorem result_decodeParam_orderParamText (hk : keys.Unreserved) (d : Definitions)
    {os : List OrderDef} (ho : ∀ o ∈ os, o.Writable) :
    Checked.result (decodeParam keys d (orderParamText keys os).toList) =
      .ok { d with orders := d.orders ++ os } := by
  have hs := Percent.decode_intercalate_encode (show ',' ≠ '%' by decide) (os.map OrderDef.signedText)
  rw [List.map_map, show String.singleton ',' = "," from rfl] at hs
  have h := result_decodeParam_order hk.plainKey_order hk.order_ne_filterParam d
    (not_mem_joined (by decide) (by decide) (by decide)) hs
  rwa [decodeOrders_value ho] at h

theorem foldl_pushFilter (g : FilterDef → FilterDef) (fs : List FilterDef) (b : Definitions) :
    fs.foldl (fun b f => b.pushFilter (g f)) b = { b with filters := b.filters ++ fs.map g } := by
  induction fs generalizing b with
  | nil => simp
  | cons f fs ih =>
    rw [List.foldl_cons, ih]
    simp [Definitions.pushFilter]

/-- Every parameter of an encoding is not empty, holds no `&` and does not start with `?`. -/
theorem encodedParams_facts (hk : keys.Unreserved) (d : Definitions) :
    ∀ p ∈ encodedParams keys d,
      p.toList ≠ [] ∧ '&' ∉ p.toList ∧ p.toList.head? ≠ some '?' := by
  have hfk : ∀ c ∈ keys.filterParam.toList, c ≠ '&' ∧ c ≠ '?' := fun c hc =>
    let ⟨_, _, _, h4, h5⟩ := hk.keyChars.1 c hc
    ⟨h4, h5⟩
  have hok : ∀ c ∈ keys.order.toList, c ≠ '&' ∧ c ≠ '?' := fun c hc =>
    let ⟨_, _, _, h4, h5⟩ := hk.keyChars.2 c hc
    ⟨h4, h5⟩
  intro p hp
  rw [encodedParams, List.mem_append] at hp
  rcases hp with hp | hp
  · obtain ⟨f, -, rfl⟩ := List.mem_map.mp hp
    exact param_facts hfk (Percent.not_mem_encode (by decide) (by decide))
  · split at hp
    · cases hp
    · rw [List.mem_singleton] at hp
      subst hp
      exact param_facts hok (not_mem_joined (by decide) (by decide) (by decide))

/-- Decoding an encoding reads back each filter from its value text and each sort key as it
was, when the filters split back and the sort keys are writable. -/
theorem result_decode_encode (hk : keys.Unreserved) {d : Definitions}
    (hf : ∀ f ∈ d.filters, f.Splits) (ho : ∀ o ∈ d.orders, o.Writable) :
    Checked.result (decode keys (encode keys d)) = .ok ⟨d.filters.map FilterDef.reread, d.orders⟩ := by
  have hps := encodedParams_facts hk d
  rw [encode_eq_intercalate, decode_intercalate (fun p hp => (hps p hp).1)
    (fun p hp => (hps p hp).2.1) (fun p hp => (hps p (List.mem_of_mem_head? hp)).2.2)]
  unfold encodedParams
  -- the filter parameters first, then the sort parameter if there is one
  rw [List.map_append, List.foldlM_append, Checked.result_bind, List.map_map, List.foldlM_map,
    Checked.result_foldlM_of_ok
      (f := fun b f => decodeParam keys b ((String.toList ∘ filterParamText keys) f))
      (g := fun b f => b.pushFilter f.reread)
      (fun b f hmem => result_decodeParam_filterParamText hk b (hf f hmem)) {},
    foldl_pushFilter]
  dsimp only
  split
  · rename_i hnil
    rw [List.isEmpty_iff.mp hnil]
    rfl
  · rw [List.map_singleton, List.foldlM_cons, Checked.result_bind,
      result_decodeParam_orderParamText hk _ ho]
    rfl

end Codec

namespace Value

/-- Only a text equals a text. -/
theorem eq_text_of_beq_text {v : Value} {s : String} (h : v.beq (.text s) = true) : v = .text s := by
  cases v with
  | text x =>
    simp only [beq, beq_iff_eq] at h
    rw [h]
  | _ => simp [beq] at h

end Value

namespace FilterDef

theorem reread_eq (f : FilterDef) :
    f.reread = ⟨f.field, f.op, Value.read f.valueText, some (Text.trim f.valueText)⟩ := rfl

/-- Every filter read from text keeps a text that is its own trim. -/
theorem ofText_text_trimmed (field : String) (op : FilterOperator) (text : String) :
    ∀ t ∈ (ofText field op text).value.text, Text.trim t = t := by
  intro t ht
  cases ht
  exact Text.trim_trim text

/-- What a filter needs to survive encoding and decoding: a field that is not empty, is its
own trim and holds none of the characters that begin operator tokens (`= ! < > [ ^ $`); a
value text that reads back as the value and does not make the token longer (`*` after `=`,
`=` after `>` or `<`); and, as every filter read from text has (`ofText_text_trimmed`), a kept
text that is its own trim. -/
structure Writable (f : FilterDef) : Prop where
  field_ne : f.field.toList ≠ []
  field_trimmed : Text.trimChars f.field.toList = f.field.toList
  field_no_token : ∀ c ∈ f.field.toList, c ∉ Codec.tokenStarts
  reads_value : (Value.read f.valueText).beq f.value = true
  eq_not_star : f.op = .eq → f.valueText.toList.head? ≠ some '*'
  cmp_not_eq : f.op = .gt ∨ f.op = .lt → f.valueText.toList.head? ≠ some '='
  text_trimmed : ∀ t ∈ f.text, Text.trim t = t

variable {f : FilterDef}

/-- The value text of a writable filter does not make its token longer. -/
theorem Writable.not_lengthens (h : f.Writable) :
    ∀ c ∈ f.valueText.toList.head?, Codec.lengthens f.op c = false := by
  intro c hc
  have hc' : f.valueText.toList.head? = some c := hc
  exact Codec.lengthens_eq_false (fun hop e => h.eq_not_star hop (e ▸ hc'))
    (fun hop e => h.cmp_not_eq hop (e ▸ hc'))

/-- A filter splits back at its token when its field is not empty, is its own trim and holds
no character that starts a token, and its value text does not make the token longer. -/
theorem splits_of (hne : f.field.toList ≠ [])
    (htrim : Text.trimChars f.field.toList = f.field.toList)
    (hfield : ∀ c ∈ f.field.toList, c ∉ Codec.tokenStarts)
    (hvalue : ∀ c ∈ f.valueText.toList.head?, Codec.lengthens f.op c = false) : f.Splits where
  split := by
    rw [String.toList_append, String.toList_append]
    exact Codec.findToken_field_token_value
      (fun s hs hsuf => by
        rw [List.append_assoc]
        exact Codec.tokenAt_suffix_eq_none hfield hs hsuf _)
      hvalue
  field_trimmed := htrim
  field_ne := hne

/-- A writable filter splits back at its token. -/
theorem Writable.splits (h : f.Writable) : f.Splits :=
  splits_of h.field_ne h.field_trimmed h.field_no_token h.not_lengthens

/-- The value text of a writable filter is its own trim: a kept text is, the text of a text
value reads back as itself only when it is, and the text of any other value has no blank at
its ends. -/
theorem Writable.trim_valueText (h : f.Writable) : Text.trim f.valueText = f.valueText := by
  have hread := h.reads_value
  unfold valueText at hread ⊢
  cases htext : f.text with
  | some t => exact h.text_trimmed t htext
  | none =>
    simp only [htext, Option.getD_none] at hread ⊢
    by_cases hv : ∃ s, f.value = .text s
    · obtain ⟨s, hs⟩ := hv
      have hts : (Value.text s).toText = s := rfl
      rw [hs, hts] at hread ⊢
      exact (Value.read_eq_text (Value.eq_text_of_beq_text hread)).symm
    · rw [Text.trim_eq_self_iff, Text.trimChars_eq_self_iff]
      exact Value.endsNotBlank_toText fun s hs => hv ⟨s, hs⟩

end FilterDef

/-- Pairing a list's images with the list relates each image to its item. -/
theorem all_zip_map {α β : Type} {g : α → β} {r : β → α → Bool} {xs : List α}
    (h : ∀ x ∈ xs, r (g x) x = true) : ((xs.map g).zip xs).all (fun p => r p.1 p.2) = true := by
  induction xs with
  | nil => rfl
  | cons x xs ih =>
    simp only [List.map_cons, List.zip_cons_cons, List.all_cons, Bool.and_eq_true]
    exact ⟨h x List.mem_cons_self, ih fun y hy => h y (List.mem_cons_of_mem x hy)⟩

theorem OrderDef.beq_self (o : OrderDef) : o.beq o = true := by
  simp [OrderDef.beq]

theorem FilterDef.Writable.reread_beq {f : FilterDef} (h : f.Writable) : f.reread.beq f = true := by
  simp [FilterDef.reread_eq, FilterDef.beq, h.reads_value]

/-- Decoding the encoding of definitions gives them back, with each filter keeping its value
text, when the keys are unreserved, every filter is writable (its field is not empty, is
trimmed and holds no token character, and its value text reads back as its value without
making the token longer) and every sort key is writable (its field is not empty, is trimmed,
holds no comma and does not start with a sign). -/
theorem decode_encode_roundtrip {keys : QueryKeys} (hk : keys.Unreserved) {d : Definitions}
    (hf : ∀ f ∈ d.filters, f.Writable) (ho : ∀ o ∈ d.orders, o.Writable) :
    ∃ d2, Checked.result (decode keys (encode keys d)) = .ok d2 ∧ d2.beq d = true ∧
      d2.filters.map FilterDef.text = d.filters.map fun f => some f.valueText := by
  refine ⟨_, Codec.result_decode_encode hk (fun f hmem => (hf f hmem).splits) ho, ?_, ?_⟩
  · -- filters pair up with the filters read back, sort keys with themselves
    have hzf := all_zip_map (r := FilterDef.beq) fun f hmem => (hf f hmem).reread_beq
    have hzo : ((d.orders.map id).zip d.orders).all (fun p => p.1.beq p.2) = true :=
      all_zip_map fun o _ => o.beq_self
    rw [List.map_id] at hzo
    simp [Definitions.beq, hzf, hzo]
  · rw [List.map_map]
    refine List.map_congr_left fun f hmem => ?_
    simp [FilterDef.reread_eq, (hf f hmem).trim_valueText]

/-- A boolean filter and a descending sort key read back. -/
theorem decode_encode_roundtrip_active_name :
    ∃ d2, Checked.result (decode {} (encode {}
        ⟨[⟨"Active", .eq, .boolean true, none⟩], [⟨"Name", true⟩]⟩)) = .ok d2 ∧
      d2.beq ⟨[⟨"Active", .eq, .boolean true, none⟩], [⟨"Name", true⟩]⟩ = true ∧
      d2.filters.map FilterDef.text = [some "true"] :=
  decode_encode_roundtrip ⟨List.all_eq_true.mp (by decide), List.all_eq_true.mp (by decide)⟩
    (by
      simp only [List.mem_singleton, forall_eq]
      exact ⟨by decide, by decide, fun c hc => by
          simpa using List.all_eq_true.mp
            (by decide : "Active".toList.all (fun c => !Codec.tokenStarts.contains c) = true) c hc,
        by decide +kernel, by decide, by decide, fun t ht => by cases ht⟩)
    (by
      simp only [List.mem_singleton, forall_eq]
      exact ⟨by decide, by decide, by decide, fun c hc => by cases hc; decide⟩)

end RecordQuery
