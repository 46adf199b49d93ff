import RecordQuery.Proofs.Compile.Membership
import RecordQuery.Proofs.Compile.Negation
import RecordQuery.Proofs.Codec.Decoded
import RecordQuery.Proofs.Value.ArrayRead

/-!
# Decoded text is compared as it was sent

A filter read from text keeps the text, trimmed, beside the value read from it. On a text field,
and on a list of texts, the filter compares against the kept text read as text only: a text that
is not bracketed stays the text it is, whatever number, boolean, UUID, duration or timestamp it
spells, and a bracketed text is split into element texts, each trimmed, the commas escaped at
the outer level unescaped (`Value.readAsText_of_not_bracketed`,
`Value.readAsText_of_elements?`).

So on a field that reads as text (through its filter override, if one is registered), the
filters read from a text `s` whose trim `t` is not bracketed select by `t` character for
character (`decoded_text_compared_exactly`): `=` the records whose field is `t`, `!=` all others
(null included), `=*` those whose field contains `t`, `^` and `$` those that start or end with
`t`, and on a list of texts `=*` those with an element `t`. With a bracketed text, `[]` and `![]`
test membership among the element texts, except those that are themselves bracketed: such an
element is read as a nested array, which no field value equals, and membership drops it
(`mem_nested_element_dropped`).
-/

namespace RecordQuery

open Checked

/-- A text that starts with `[` and ends with a later `]`. -/
def Bracketed (cs : List Char) : Prop :=
  2 ≤ cs.length ∧ cs.head? = some '[' ∧ cs.getLast? = some ']'

instance : DecidablePred Bracketed := fun cs =>
  inferInstanceAs (Decidable (2 ≤ cs.length ∧ cs.head? = some '[' ∧ cs.getLast? = some ']'))

namespace Elements

/-- A text has no elements exactly when, trimmed, it is not bracketed. -/
theorem elements?_eq_none_iff {cs : List Char} :
    elements? cs = none ↔ ¬ Bracketed (Text.trimChars cs) := by
  unfold elements?
  dsimp only
  split
  · rename_i hcond
    have hb : Bracketed (Text.trimChars cs) := by simpa [Bracketed, and_assoc] using hcond
    split
    · split <;> simp [hb]
    · simp [hb]
  · rename_i hcond
    have hb : ¬ Bracketed (Text.trimChars cs) := by simpa [Bracketed, and_assoc] using hcond
    simp [hb]

end Elements

namespace Value

/-- An array text is read as text element by element. -/
theorem readCharsAsText_of_elements? {cs : List Char} {es : List (List Char)}
    (h : Elements.elements? cs = some es) :
    readCharsAsText cs = .array (es.map readCharsAsText) := by
  rw [readCharsAsText]
  split
  · rename_i es' heq
    rw [h, Option.some.injEq] at heq
    subst heq
    simp
  · rename_i heq
    rw [h] at heq
    cases heq

/-- A trimmed text that is not bracketed is read as text as itself. -/
theorem readAsText_of_not_bracketed {s : String} (h : ¬ Bracketed (Text.trim s).toList) :
    readAsText (Text.trim s) = .text (Text.trim s) := by
  have htrim : Text.trimChars (Text.trim s).toList = (Text.trim s).toList := by
    rw [← Text.trim_eq_self_iff, Text.trim_trim]
  have hnone : Elements.elements? (Text.trim s).toList = none := by
    rw [Elements.elements?_eq_none_iff, htrim]
    exact h
  unfold readAsText
  rw [readCharsAsText_of_elements?_eq_none hnone, htrim, String.ofList_toList]

/-- A bracketed text is read as the texts of its elements. -/
theorem readAsText_of_elements? {t : String} {es : List (List Char)}
    (h : Elements.elements? t.toList = some es) :
    readAsText t = .array (es.map readCharsAsText) :=
  readCharsAsText_of_elements? h

/-- An element is read as text as its trim, or, when the trim is bracketed, as a nested array. -/
theorem readCharsAsText_cases (e : List Char) :
    (¬ Bracketed (Text.trimChars e) ∧
        readCharsAsText e = .text (String.ofList (Text.trimChars e))) ∨
      (Bracketed (Text.trimChars e) ∧ (readCharsAsText e).isArray = true) := by
  cases h : Elements.elements? e with
  | none =>
    exact .inl ⟨Elements.elements?_eq_none_iff.mp h, readCharsAsText_of_elements?_eq_none h⟩
  | some es =>
    refine .inr ⟨not_not.mp fun hb => ?_, by rw [readCharsAsText_of_elements? h]; rfl⟩
    rw [Elements.elements?_eq_none_iff.mpr hb] at h
    cases h

end Value

section Chars

/-- Code points compare equal exactly when the lists are equal. -/
theorem compareChars_eq_eq_iff {xs ys : List Char} : compareChars xs ys = .eq ↔ xs = ys := by
  induction xs generalizing ys with
  | nil => cases ys <;> simp [compareChars]
  | cons x xs ih =>
    cases ys with
    | nil => simp [compareChars]
    | cons y ys =>
      simp only [compareChars, List.cons.injEq]
      cases h : compare x.toNat y.toNat with
      | eq =>
        have hxy : x = y := Char.toNat_inj.mp (compare_eq_iff_eq.mp h)
        simp [ih, hxy]
      | lt =>
        have hxy : x ≠ y := fun hxy => by simp [hxy] at h
        simp [hxy]
      | gt =>
        have hxy : x ≠ y := fun hxy => by simp [hxy] at h
        simp [hxy]

/-- The needle occurs in the text as a contiguous part. -/
theorem containsChars_iff_infix (hay needle : List Char) :
    containsChars hay needle = true ↔ needle <:+: hay := by
  induction hay with
  | nil => cases needle <;> simp [containsChars]
  | cons h hs ih =>
    cases needle with
    | nil => simp [containsChars]
    | cons n ns =>
      simp only [containsChars, Bool.or_eq_true, ih, List.isPrefixOf_iff_prefix]
      exact List.infix_cons_iff.symm

end Chars

namespace FieldValue

/-- A field value equals a text literal exactly when it is that text. -/
theorem equals_text_iff (v : FieldValue) (t : String) : v.equals (.text t) = true ↔ v = .text t := by
  cases v
  case text u =>
    simp only [equals, Value.asField, compare?, compareText, beq_iff_eq, Option.some.injEq,
      compareChars_eq_eq_iff, String.toList_inj, text.injEq]
  all_goals simp [equals, Value.asField, compare?]

end FieldValue

namespace Condition

variable {field : String} {k : ValueKind} {l : Value}

/-- A negated operator builds the condition of its base operator, inverted. -/
theorem result_build_negated_of_ok {op : FilterOperator} (hop : op.isNegated = true)
    {c : Condition} (hc : result (build field k op.base l) = .ok c) :
    result (build field k op l) = .ok c.invert :=
  eq_ok_of_toOption (by rw [build_negated hop, hc]; rfl)

/-- Containment of a text literal in a text field accepts the texts that contain it. -/
theorem accepts_textContains_iff (t : String) (v : FieldValue) :
    (⟨.textContains t, false⟩ : Condition).accepts v = true ↔
      ∃ u, v = .text u ∧ t.toList <:+: u.toList := by
  cases v
  case text u => simp [accepts, FieldValue.isNull, Test.eval, FieldValue.asText?,
    containsChars_iff_infix]
  all_goals simp [accepts, FieldValue.isNull, Test.eval, FieldValue.asText?]

/-- Starting with a text accepts the texts that have it as a prefix. -/
theorem accepts_startsWith_iff (t : String) (v : FieldValue) :
    (⟨.startsWith t, false⟩ : Condition).accepts v = true ↔
      ∃ u, v = .text u ∧ t.toList <+: u.toList := by
  cases v
  case text u => simp [accepts, FieldValue.isNull, Test.eval, FieldValue.asText?,
    List.isPrefixOf_iff_prefix]
  all_goals simp [accepts, FieldValue.isNull, Test.eval, FieldValue.asText?]

/-- Ending with a text accepts the texts that have it as a suffix. -/
theorem accepts_endsWith_iff (t : String) (v : FieldValue) :
    (⟨.endsWith t, false⟩ : Condition).accepts v = true ↔
      ∃ u, v = .text u ∧ t.toList <:+ u.toList := by
  cases v
  case text u => simp [accepts, FieldValue.isNull, Test.eval, FieldValue.asText?,
    List.isPrefixOf_iff_prefix, List.reverse_prefix]
  all_goals simp [accepts, FieldValue.isNull, Test.eval, FieldValue.asText?]

/-- Containment of a literal in a list accepts the lists with an element equal to it. -/
theorem accepts_listContains_iff (w : Value) (v : FieldValue) :
    (⟨.listContains (some w), false⟩ : Condition).accepts v = true ↔
      ∃ es, v = .list es ∧ ∃ e ∈ es, e.equals w = true := by
  cases v
  case list es => simp [accepts, FieldValue.isNull, Test.eval, FieldValue.asList?]
  all_goals simp [accepts, FieldValue.isNull, Test.eval, FieldValue.asList?]

/-- On a text field, containment, starting with and ending with a literal that is no array are
built with the literal's text. -/
theorem result_build_text_tests (hl : l.isArray = false) :
    result (build field .text .has l) = .ok ⟨.textContains l.toText, false⟩ ∧
      result (build field .text .startsWith l) = .ok ⟨.startsWith l.toText, false⟩ ∧
      result (build field .text .endsWith l) = .ok ⟨.endsWith l.toText, false⟩ := by
  refine ⟨?_, ?_, ?_⟩ <;> simp [build, hl] <;> rfl

/-- An element of a bracketed text, read as text, is brought to a text field as its trim, unless
that trim is bracketed; a value equals it exactly when it is that trim. -/
theorem exists_coerce_readCharsAsText_iff (e : List Char) (v : FieldValue) :
    (∃ w, (coerce (Value.readCharsAsText e) .text).value = some w ∧ v.equals w = true) ↔
      ¬ Bracketed (Text.trimChars e) ∧ v = .text (String.ofList (Text.trimChars e)) := by
  rcases Value.readCharsAsText_cases e with ⟨hb, he⟩ | ⟨hb, he⟩
  · -- a plain element is a text, brought to the field as itself
    rw [he, coerce_value_text]
    simp [hb, Value.isArray, Value.toText, Value.scalarText, FieldValue.equals_text_iff]
  · -- a bracketed element is a nested array, which no text field takes
    rw [coerce_value_text, he]
    simp [hb]

/-- The trims of the elements that are not bracketed are what membership accepts. -/
theorem accepts_member_readCharsAsText_iff (es : List (List Char)) (v : FieldValue) :
    (⟨.member ((es.map Value.readCharsAsText).filterMap fun w => (coerce w .text).value), false⟩ :
        Condition).accepts v = true ↔
      ∃ e ∈ es, ¬ Bracketed (Text.trimChars e) ∧ v = .text (String.ofList (Text.trimChars e)) := by
  simp only [accepts_member, List.any_eq_true, List.filterMap_map, List.mem_filterMap,
    Function.comp_apply]
  constructor
  · rintro ⟨w, ⟨e, he, hw⟩, heq⟩
    exact ⟨e, he, (exists_coerce_readCharsAsText_iff e v).mp ⟨w, hw, heq⟩⟩
  · rintro ⟨e, he, hrest⟩
    obtain ⟨w, hw, heq⟩ := (exists_coerce_readCharsAsText_iff e v).mpr hrest
    exact ⟨w, ⟨e, he, hw⟩, heq⟩

end Condition

open Condition

section Literal

variable {α : Type} {F s : String} {a : Access α} {k : ValueKind}

/-- On a field that reads as text, or as a list of texts, a filter read from text compares
against its trimmed text read as text. -/
theorem literalFor_ofText {op : FilterOperator} (hk : k = .text ∨ k = .list .text) :
    (FilterDef.ofText F op s).value.literalFor k = Value.readAsText (Text.trim s) := by
  rcases hk with rfl | rfl <;> rfl

/-- A filter read from a text that is not bracketed compares, on a field that reads as text or
as a list of texts, against the trimmed text. -/
theorem literalFor_ofText_plain {op : FilterOperator} (hb : ¬ Bracketed (Text.trim s).toList)
    (hk : a.kind = .text ∨ a.kind = .list .text) :
    (FilterDef.ofText F op s).value.literalFor a.kind = .text (Text.trim s) := by
  rw [literalFor_ofText hk, Value.readAsText_of_not_bracketed hb]

/-- Membership of a text field in a bracketed text is built with the trims of its elements that
are not bracketed in turn. -/
theorem result_build_ofText_mem (hk : a.kind = .text) {es : List (List Char)}
    (hes : Elements.elements? (Text.trim s).toList = some es) :
    result (build F a.kind .mem ((FilterDef.ofText F .mem s).value.literalFor a.kind)) =
      .ok ⟨.member ((es.map Value.readCharsAsText).filterMap fun w => (coerce w .text).value),
        false⟩ := by
  rw [literalFor_ofText (.inl hk), Value.readAsText_of_elements? hes, hk]
  exact result_build_mem rfl _

end Literal

section Selection

variable {α : Type} [Queryable α]

/-- The filter compiles, and keeps exactly the records whose field, read as `a` reads it,
satisfies `P`. -/
def FilterDef.SelectsBy (table : Overrides α) (f : FilterDef) (a : Access α)
    (P : FieldValue → Prop) : Prop :=
  ∃ p, result (compileFilter table f) = .ok p ∧ ∀ r, p r = true ↔ P (a.read r)

variable {table : Overrides α} {F s : String} {a : Access α}

/-- A filter whose condition is built selects by what the condition accepts. -/
theorem FilterDef.selectsBy_of_build {f : FilterDef}
    (ha : result (Access.resolve α f.field (table.find? .filter f.field)) = .ok a)
    {c : Condition} (hc : result (Condition.build f.field a.kind f.op (f.literalFor a.kind)) = .ok c)
    {P : FieldValue → Prop} (hP : ∀ v, c.accepts v = true ↔ P v) : f.SelectsBy table a P :=
  ⟨_, by rw [result_compileFilter ha, hc]; rfl, fun r => hP (a.read r)⟩

variable (table) (F s)

/-- How the filters read from a text `s` select on a field read as `a`, with `t` the trim of `s`:
when `t` is not bracketed, on a text field `=` keeps the records whose field is `t`, `!=` all the
others, `=*` those whose field contains `t`, `^` and `$` those that start or end with `t`, and on a
list of texts `=*` keeps those with an element `t`; when `t` is bracketed, on a text field `[]`
keeps the records whose field is the trim of one of its elements whose trim is not bracketed in
turn, and `![]` all the others. -/
structure ComparesSentText (a : Access α) : Prop where
  eq : a.kind = .text → ¬ Bracketed (Text.trim s).toList →
    (FilterDef.ofText F .eq s).value.SelectsBy table a (· = .text (Text.trim s))
  ne : a.kind = .text → ¬ Bracketed (Text.trim s).toList →
    (FilterDef.ofText F .ne s).value.SelectsBy table a (· ≠ .text (Text.trim s))
  has : a.kind = .text → ¬ Bracketed (Text.trim s).toList →
    (FilterDef.ofText F .has s).value.SelectsBy table a
      fun v => ∃ u, v = .text u ∧ (Text.trim s).toList <:+: u.toList
  startsWith : a.kind = .text → ¬ Bracketed (Text.trim s).toList →
    (FilterDef.ofText F .startsWith s).value.SelectsBy table a
      fun v => ∃ u, v = .text u ∧ (Text.trim s).toList <+: u.toList
  endsWith : a.kind = .text → ¬ Bracketed (Text.trim s).toList →
    (FilterDef.ofText F .endsWith s).value.SelectsBy table a
      fun v => ∃ u, v = .text u ∧ (Text.trim s).toList <:+ u.toList
  hasElement : a.kind = .list .text → ¬ Bracketed (Text.trim s).toList →
    (FilterDef.ofText F .has s).value.SelectsBy table a
      fun v => ∃ es, v = .list es ∧ .text (Text.trim s) ∈ es
  mem : a.kind = .text → ∀ es, Elements.elements? (Text.trim s).toList = some es →
    (FilterDef.ofText F .mem s).value.SelectsBy table a fun v =>
      ∃ e ∈ es, ¬ Bracketed (Text.trimChars e) ∧ v = .text (String.ofList (Text.trimChars e))
  notMem : a.kind = .text → ∀ es, Elements.elements? (Text.trim s).toList = some es →
    (FilterDef.ofText F .notMem s).value.SelectsBy table a fun v =>
      ¬ ∃ e ∈ es, ¬ Bracketed (Text.trimChars e) ∧ v = .text (String.ofList (Text.trimChars e))

variable {table} {F s}

section Plain

variable (ha : result (Access.resolve α F (table.find? .filter F)) = .ok a)
  (hb : ¬ Bracketed (Text.trim s).toList)
include ha hb

theorem selectsBy_ofText_eq (hk : a.kind = .text) :
    (FilterDef.ofText F .eq s).value.SelectsBy table a (· = .text (Text.trim s)) := by
  have hc : result (build F a.kind .eq ((FilterDef.ofText F .eq s).value.literalFor a.kind)) =
      .ok ⟨.compare .eq (.text (Text.trim s)), false⟩ := by
    rw [literalFor_ofText_plain hb (.inl hk)]
    exact result_build_eq_iff.mpr ⟨_, by rw [hk]; rfl, rfl⟩
  refine FilterDef.selectsBy_of_build ha hc fun v => ?_
  rw [accepts_compare_eq, FieldValue.equals_text_iff]

theorem selectsBy_ofText_ne (hk : a.kind = .text) :
    (FilterDef.ofText F .ne s).value.SelectsBy table a (· ≠ .text (Text.trim s)) := by
  -- `!=` is `=` inverted
  have hc : result (build F a.kind .ne ((FilterDef.ofText F .ne s).value.literalFor a.kind)) =
      .ok (Condition.invert ⟨.compare .eq (.text (Text.trim s)), false⟩) := by
    rw [literalFor_ofText_plain hb (.inl hk)]
    exact result_build_negated_of_ok rfl (result_build_eq_iff.mpr ⟨_, by rw [hk]; rfl, rfl⟩)
  refine FilterDef.selectsBy_of_build ha hc fun v => ?_
  rw [accepts_invert, accepts_compare_eq, Bool.not_eq_true', Bool.eq_false_iff, Ne,
    FieldValue.equals_text_iff]

theorem selectsBy_ofText_has (hk : a.kind = .text) :
    (FilterDef.ofText F .has s).value.SelectsBy table a
      fun v => ∃ u, v = .text u ∧ (Text.trim s).toList <:+: u.toList := by
  refine FilterDef.selectsBy_of_build ha ?_ fun v => accepts_textContains_iff _ v
  rw [literalFor_ofText_plain hb (.inl hk), hk]
  exact (result_build_text_tests rfl).1

theorem selectsBy_ofText_startsWith (hk : a.kind = .text) :
    (FilterDef.ofText F .startsWith s).value.SelectsBy table a
      fun v => ∃ u, v = .text u ∧ (Text.trim s).toList <+: u.toList := by
  refine FilterDef.selectsBy_of_build ha ?_ fun v => accepts_startsWith_iff _ v
  rw [literalFor_ofText_plain hb (.inl hk), hk]
  exact (result_build_text_tests rfl).2.1

theorem selectsBy_ofText_endsWith (hk : a.kind = .text) :
    (FilterDef.ofText F .endsWith s).value.SelectsBy table a
      fun v => ∃ u, v = .text u ∧ (Text.trim s).toList <:+ u.toList := by
  refine FilterDef.selectsBy_of_build ha ?_ fun v => accepts_endsWith_iff _ v
  rw [literalFor_ofText_plain hb (.inl hk), hk]
  exact (result_build_text_tests rfl).2.2

theorem selectsBy_ofText_hasElement (hk : a.kind = .list .text) :
    (FilterDef.ofText F .has s).value.SelectsBy table a
      fun v => ∃ es, v = .list es ∧ .text (Text.trim s) ∈ es := by
  -- the text literal is brought to the text elements as itself
  have hc : result (build F a.kind .has ((FilterDef.ofText F .has s).value.literalFor a.kind)) =
      .ok ⟨.listContains (some (.text (Text.trim s))), false⟩ := by
    rw [literalFor_ofText_plain hb (.inr hk), hk]
    exact result_build_has_list rfl
  refine FilterDef.selectsBy_of_build ha hc fun v => ?_
  rw [accepts_listContains_iff]
  simp [FieldValue.equals_text_iff]

end Plain

section Bracketed

variable (ha : result (Access.resolve α F (table.find? .filter F)) = .ok a)
  (hk : a.kind = .text) {es : List (List Char)}
  (hes : Elements.elements? (Text.trim s).toList = some es)
include ha hk hes

theorem selectsBy_ofText_mem :
    (FilterDef.ofText F .mem s).value.SelectsBy table a fun v =>
      ∃ e ∈ es, ¬ Bracketed (Text.trimChars e) ∧ v = .text (String.ofList (Text.trimChars e)) :=
  FilterDef.selectsBy_of_build ha (result_build_ofText_mem hk hes)
    (accepts_member_readCharsAsText_iff es)

theorem selectsBy_ofText_notMem :
    (FilterDef.ofText F .notMem s).value.SelectsBy table a fun v =>
      ¬ ∃ e ∈ es, ¬ Bracketed (Text.trimChars e) ∧ v = .text (String.ofList (Text.trimChars e)) := by
  -- `![]` is `[]` inverted
  refine FilterDef.selectsBy_of_build ha
    (result_build_negated_of_ok rfl (result_build_ofText_mem hk hes)) fun v => ?_
  rw [accepts_invert, Bool.not_eq_true', Bool.eq_false_iff, ← accepts_member_readCharsAsText_iff es]

end Bracketed

/-- A filter read from a text compares, on a field read as text, against the trimmed text
character for character, whatever else the text spells: equality, inequality, containment,
starting and ending with the text, containment of the text in a list of texts, and, for a
bracketed text, membership among the trims of its elements that are not bracketed in turn. -/
theorem ofText_compares_trimmed_text
    (ha : result (Access.resolve α F (table.find? .filter F)) = .ok a) :
    ComparesSentText table F s a where
  eq hk hb := selectsBy_ofText_eq ha hb hk
  ne hk hb := selectsBy_ofText_ne ha hb hk
  has hk hb := selectsBy_ofText_has ha hb hk
  startsWith hk hb := selectsBy_ofText_startsWith ha hb hk
  endsWith hk hb := selectsBy_ofText_endsWith ha hb hk
  hasElement hk hb := selectsBy_ofText_hasElement ha hb hk
  mem hk _ hes := selectsBy_ofText_mem ha hk hes
  notMem hk _ hes := selectsBy_ofText_notMem ha hk hes

end Selection

/-- The filters read from ` 007 ` on the name of the sample record compare against `007`, not
against the integer it spells. -/
theorem ofText_compares_trimmed_text_name007 :
    result (Access.resolve Rec "Name" (({} : Overrides Rec).find? .filter "Name")) =
        .ok (.field (Field.of "Name" (·.name))) ∧
      ComparesSentText ({} : Overrides Rec) "Name" " 007 " (.field (Field.of "Name" (·.name))) :=
  ⟨rfl, ofText_compares_trimmed_text rfl⟩

/-- A bracketed element is dropped: `[[a],b]` has the element texts `[a]` and `b`, but
membership in it does not keep a record named `[a]`. -/
theorem mem_nested_element_dropped :
    Elements.elements? "[[a],b]".toList = some ["[a]".toList, "b".toList] ∧
      (result (applyDefinitions [({ name := "[a]" } : Rec)]
        ⟨[(FilterDef.ofText "Name" .mem "[[a],b]").value], []⟩ {})).toOption.map
          (·.map Rec.idx) = some [] :=
  ⟨by decide +kernel, by decide +kernel⟩

end RecordQuery
