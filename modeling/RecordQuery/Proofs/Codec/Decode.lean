import RecordQuery.Codec
import RecordQuery.Proofs.Checked
import RecordQuery.Proofs.Text.Trim
import RecordQuery.Proofs.Text.Percent

/-!
# Decoding a query string, part by part

What decoding does with each piece of a query string: a parameter splits at its first `=`
(`splitParam_append`); a key or value that percent-decodes to a text is decoded to that text
whether or not it holds an escape (`result_decodeComponent`); a filter text is split at its
token (`result_decodeFilter`); a filter parameter adds its filter and a sort parameter its
sort keys (`result_decodeParam_filter`, `result_decodeParam_order`); and the parts of a sort
parameter written as `-FIELD` or `FIELD` give back their keys (`decodeOrders_value`).

The last lemma, `result_decode_of_params`, decodes a whole query string made of parameters
that each decode: decoding is a loop over the parameters.
-/

namespace RecordQuery

namespace Codec

/-- A parameter whose key has no `=` splits at the `=` after the key. -/
theorem splitParam_append {key value : List Char} (h : '=' ∉ key) :
    splitParam (key ++ '=' :: value) = (key, value) := by
  have hkey : ∀ c ∈ key, (!decide (c = '=')) = true := by
    intro c hc
    simpa using fun e : c = '=' => h (e ▸ hc)
  simp [splitParam, List.takeWhile_append_of_pos hkey, List.dropWhile_append_of_pos hkey]

/-- A component without `+` that percent-decodes to `s` is decoded to `s`, whether or not it
holds an escape. -/
theorem result_decodeComponent {raw s : String} (hplus : '+' ∉ raw.toList)
    (h : Percent.decode raw = some s) : Checked.result (decodeComponent raw) = .ok s := by
  unfold decodeComponent
  split
  · -- with an escape, and no `+` to stand for a space
    have hspaced : String.ofList (raw.toList.map fun c => if c = '+' then ' ' else c) = raw := by
      rw [List.map_congr_left (fun c hc => if_neg (fun (e : c = '+') => hplus (e ▸ hc))),
        List.map_id', String.ofList_toList]
    simp only [hspaced, h, Checked.result_pure]
  · -- without `%`, decoding is the identity
    rename_i hany
    have hpct : ∀ c ∈ raw.toList, c ≠ '%' := by
      intro c hc e
      apply hany
      exact List.any_eq_true.mpr ⟨c, hc, by simp [e]⟩
    rw [Percent.decode_of_forall_ne hpct, Option.some.injEq] at h
    rw [h]
    rfl

/-- A component without `%` and `+` is decoded as it is. -/
theorem result_decodeComponent_plain {raw : String} (h : ∀ c ∈ raw.toList, c ≠ '%' ∧ c ≠ '+') :
    Checked.result (decodeComponent raw) = .ok raw :=
  result_decodeComponent (fun hp => (h '+' hp).2 rfl)
    (Percent.decode_of_forall_ne fun c hc => (h c hc).1)

/-- The percent-encoding of a text is decoded to the text. -/
theorem result_decodeComponent_encode (s : String) :
    Checked.result (decodeComponent (Percent.encode s)) = .ok s :=
  result_decodeComponent (Percent.not_mem_encode (by decide) (by decide)) (Percent.decode_encode s)

/-- A filter text whose split leaves a trimmed, non-empty field is the filter read from the
text after the token. -/
theorem result_decodeFilter {text : String} {pre post : List Char} {op : FilterOperator}
    (h : findToken text.toList = some (pre, op, post)) (htrim : Text.trimChars pre = pre)
    (hne : pre ≠ []) :
    Checked.result (decodeFilter text) =
      .ok (FilterDef.ofText (String.ofList pre) op (String.ofList post)).value := by
  have hfield : (String.ofList pre).isEmpty = false := by
    rw [String.isEmpty_eq_false_iff, Ne, ← String.toList_eq_nil_iff, String.toList_ofList]
    exact hne
  unfold decodeFilter
  rw [h]
  simp only [htrim, hfield]
  rfl

/-- What a key of a query string needs for decoding to find it: no `=`, `%` or `+`. -/
def PlainKey (key : String) : Prop := ∀ c ∈ key.toList, c ≠ '=' ∧ c ≠ '%' ∧ c ≠ '+'

/-- A filter parameter adds the filter read from its text. -/
theorem result_decodeParam_filter {keys : QueryKeys} (hkey : PlainKey keys.filterParam)
    (d : Definitions) {text : String} {pre post : List Char} {op : FilterOperator}
    (h : findToken text.toList = some (pre, op, post)) (htrim : Text.trimChars pre = pre)
    (hne : pre ≠ []) :
    Checked.result (decodeParam keys d (keys.filterParam ++ "=" ++ Percent.encode text).toList) =
      .ok (d.pushFilter (FilterDef.ofText (String.ofList pre) op (String.ofList post)).value) := by
  have hsplit : splitParam (keys.filterParam.toList ++ '=' :: (Percent.encode text).toList) =
      (keys.filterParam.toList, (Percent.encode text).toList) :=
    splitParam_append fun hc => (hkey '=' hc).1 rfl
  have hk := result_decodeComponent_plain fun c hc => (hkey c hc).2
  simp only [decodeParam, String.toList_append, List.append_assoc, show "=".toList = ['='] from rfl,
    List.singleton_append, hsplit, String.ofList_toList, Checked.result_bind, hk,
    result_decodeComponent_encode, beq_self_eq_true, if_true, result_decodeFilter h htrim hne,
    Checked.result_lift, Checked.result_pure]

/-- A sort parameter adds the sort keys of its decoded value. -/
theorem result_decodeParam_order {keys : QueryKeys} (hkey : PlainKey keys.order)
    (hne : keys.order ≠ keys.filterParam) (d : Definitions) {raw s : String}
    (hplus : '+' ∉ raw.toList) (hs : Percent.decode raw = some s) :
    Checked.result (decodeParam keys d (keys.order ++ "=" ++ raw).toList) =
      .ok { d with orders := d.orders ++ (decodeOrders s).value } := by
  have hsplit : splitParam (keys.order.toList ++ '=' :: raw.toList) = (keys.order.toList, raw.toList) :=
    splitParam_append fun hc => (hkey '=' hc).1 rfl
  have hk := result_decodeComponent_plain fun c hc => (hkey c hc).2
  simp only [decodeParam, String.toList_append, List.append_assoc, show "=".toList = ['='] from rfl,
    List.singleton_append, hsplit, String.ofList_toList, Checked.result_bind, hk,
    result_decodeComponent hplus hs, beq_iff_eq, hne, if_false, if_true,
    Checked.result_lift, Checked.result_pure]

end Codec

namespace OrderDef

/-- The part of a sort key in a sort parameter: `-` before a descending key. -/
def signedText (o : OrderDef) : String := (if o.reversed then "-" else "") ++ o.field

/-- A sort key that decoding reads back from its part: the field is not empty, is its own
trim, holds no `,` and does not start with a sign. -/
structure Writable (o : OrderDef) : Prop where
  field_ne : o.field.toList ≠ []
  field_trimmed : Text.trimChars o.field.toList = o.field.toList
  no_comma : ',' ∉ o.field.toList
  no_sign : ∀ c ∈ o.field.toList.head?, c ≠ '-' ∧ c ≠ '+'

theorem Writable.comma_not_mem_signedText {o : OrderDef} (h : o.Writable) :
    ',' ∉ o.signedText.toList := by
  unfold signedText
  rw [String.toList_append, List.mem_append]
  rintro (hc | hc)
  · split at hc <;> simp at hc
  · exact h.no_comma hc

/-- The part of a writable sort key is its own trim. -/
theorem Writable.trimChars_signedText {o : OrderDef} (h : o.Writable) :
    Text.trimChars o.signedText.toList = o.signedText.toList := by
  have hends := Text.trimChars_eq_self_iff.mp h.field_trimmed
  apply Text.trimChars_eq_self_iff.mpr
  unfold signedText
  split
  · rw [String.toList_append, show "-".toList = ['-'] from rfl, List.singleton_append]
    exact Text.EndsNotBlank.cons (c := '-') (by decide) hends
  · simpa using hends

/-- Dropping the signs of the part of a writable sort key leaves its field. -/
theorem Writable.dropWhile_signedText {o : OrderDef} (h : o.Writable) :
    o.signedText.toList.dropWhile (fun c => c = '-' || c = '+') = o.field.toList := by
  have hfield : o.field.toList.dropWhile (fun c => c = '-' || c = '+') = o.field.toList := by
    obtain ⟨c, rest, hcr⟩ := List.exists_cons_of_ne_nil h.field_ne
    have hc := h.no_sign c (by simp [hcr])
    rw [hcr, List.dropWhile_cons_of_neg (by simpa using hc)]
  unfold signedText
  split
  · simpa using hfield
  · simpa using hfield

theorem Writable.head?_signedText {o : OrderDef} (h : o.Writable) :
    (o.signedText.toList.head? == some '-') = o.reversed := by
  obtain ⟨c, rest, hcr⟩ := List.exists_cons_of_ne_nil h.field_ne
  have hc := h.no_sign c (by simp [hcr])
  unfold signedText
  cases o.reversed <;> simp [hcr, hc.1]

end OrderDef

namespace Codec

/-- A loop whose every step appends the item that the step was given the text of builds the
list of the items. -/
theorem foldl_map_eq_append {α β : Type} {step : List α → β → List α} {g : α → β} {xs : List α}
    (h : ∀ acc, ∀ x ∈ xs, step acc (g x) = acc ++ [x]) (acc : List α) :
    (xs.map g).foldl step acc = acc ++ xs := by
  induction xs generalizing acc with
  | nil => simp
  | cons x xs ih =>
    rw [List.map_cons, List.foldl_cons, h acc x List.mem_cons_self,
      ih (fun acc y hy => h acc y (List.mem_cons_of_mem x hy))]
    simp

/-- A sort parameter of writable keys, joined with commas, decodes to the keys. -/
theorem decodeOrders_value {os : List OrderDef} (h : ∀ o ∈ os, o.Writable) :
    (decodeOrders (",".intercalate (os.map OrderDef.signedText))).value = os := by
  unfold decodeOrders
  rw [Logged.value_foldlM, String.toList_intercalate, List.map_map]
  cases os with
  | nil => rfl
  | cons o os =>
    rw [show ",".toList = [','] from rfl, List.splitOn_intercalate ',' (by
        simp only [List.mem_map, Function.comp_apply]
        rintro _ ⟨p, hp, rfl⟩
        exact (h p hp).comma_not_mem_signedText) (by simp)]
    refine (foldl_map_eq_append (fun acc p hp => ?_) []).trans (List.nil_append _)
    -- one part: trimmed, signs dropped, a non-empty field
    have hp' := h p hp
    have hne : p.field.toList.isEmpty = false := List.isEmpty_eq_false_iff.mpr hp'.field_ne
    simp only [Function.comp_apply, hp'.trimChars_signedText, hp'.dropWhile_signedText,
      hp'.field_trimmed, hp'.head?_signedText, String.ofList_toList, hne, Bool.false_eq_true,
      if_false, Logged.value_bind, Logged.value_pure]

/-- A query string of parameters that are not empty, hold no `&` and do not start the string
with `?` is decoded by the loop over its parameters. -/
theorem decode_intercalate {keys : QueryKeys} {ps : List String} (hne : ∀ p ∈ ps, p.toList ≠ [])
    (hamp : ∀ p ∈ ps, '&' ∉ p.toList) (hq : ∀ p ∈ ps.head?, p.toList.head? ≠ some '?') :
    decode keys ("&".intercalate ps) = (ps.map String.toList).foldlM (decodeParam keys) {} := by
  cases ps with
  | nil => rfl
  | cons p rest =>
    -- the string starts with the first parameter, so not with `?`
    have hpre : p.toList <+: ("&".intercalate (p :: rest)).toList := by
      cases rest <;> simp [String.toList_append, List.append_assoc]
    obtain ⟨t, ht⟩ := hpre
    obtain ⟨c, cs, hp⟩ := List.exists_cons_of_ne_nil (hne p List.mem_cons_self)
    have hc : c ≠ '?' := fun e => hq p rfl (by simp [hp, e])
    unfold decode
    split
    · rename_i r heq
      rw [← ht, hp, List.cons_append, List.cons.injEq] at heq
      exact absurd heq.1 hc
    · have hsplit : (("&".intercalate (p :: rest)).toList.splitOn '&') = (p :: rest).map String.toList := by
        rw [String.toList_intercalate, show "&".toList = ['&'] from rfl]
        exact List.splitOn_intercalate '&' (by simpa using hamp) (by simp)
      simp only [hsplit]
      rw [List.filter_eq_self.mpr (by simpa using hne)]

end Codec

end RecordQuery
