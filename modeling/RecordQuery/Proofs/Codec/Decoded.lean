import RecordQuery.Proofs.Codec.Decode
import RecordQuery.Proofs.Codec.Token

/-!
# What decoding makes

Every filter and sort key that decoding produces has the shape of the text it came from
(`Definitions.decoded_of_decode`). A filter comes from a filter text split at its leftmost
token: its field is the trimmed part before the token, inside which no token starts, and its
value is read from the part after, whose trim it keeps (`FilterDef.Decoded`). A sort key
comes from a part of a sort parameter between two commas: its field is not empty, is its own
trim and holds no comma (`OrderDef.Decoded`).

The proof is an invariant of the decoding loop: the empty definitions have it, and each
parameter keeps it (`Definitions.Decoded.decodeParam`).
-/

namespace RecordQuery

/-- Every part of a list split at the items satisfying `p` holds none of them. -/
theorem forall_of_mem_splitOnP {α : Type} {p : α → Bool} {xs part : List α}
    (h : part ∈ xs.splitOnP p) : ∀ c ∈ part, p c = false := by
  induction xs generalizing part with
  | nil =>
    rw [List.splitOnP_nil, List.mem_singleton] at h
    subst h
    simp
  | cons x xs ih =>
    rw [List.splitOnP_cons_eq_if_modifyHead] at h
    split at h
    · -- `x` separates: the parts are the empty one and those of the rest
      rcases List.mem_cons.mp h with rfl | h
      · simp
      · exact ih h
    · -- `x` joins the first part of the rest
      rename_i hx
      obtain ⟨first, others, hsplit⟩ := List.exists_cons_of_ne_nil (List.splitOnP_ne_nil p xs)
      rw [hsplit, List.modifyHead_cons] at h
      rcases List.mem_cons.mp h with rfl | h
      · intro c hc
        rcases List.mem_cons.mp hc with rfl | hc
        · simpa using hx
        · exact ih (by rw [hsplit]; exact List.mem_cons_self) c hc
      · exact ih (by rw [hsplit]; exact List.mem_cons_of_mem first h)

namespace FilterDef

/-- The filter read from text has the field and the operator it is given, the value read from
the text and the trimmed text. -/
@[simp] theorem ofText_value (field : String) (op : FilterOperator) (text : String) :
    (ofText field op text).value = ⟨field, op, Value.read text, some (Text.trim text)⟩ := rfl

/-- A filter as decoding makes it from a filter text split at its token into a part before,
inside which no token starts, and a part after: the field is the part before, trimmed and not
empty, the value is read from the part after, and the trimmed part after is kept. -/
def Decoded (f : FilterDef) : Prop :=
  ∃ pre post : List Char,
    (∀ s, s ≠ [] → s <:+ pre → Codec.tokenAt (s ++ f.op.token.toList ++ post) = none) ∧
    f.field.toList = Text.trimChars pre ∧ f.field.toList ≠ [] ∧
    f.value = Value.read (String.ofList post) ∧ f.text = some (Text.trim (String.ofList post))

/-- A decoded filter text gives a decoded filter. -/
theorem decoded_of_decodeFilter {text : String} {f : FilterDef}
    (h : Checked.result (Codec.decodeFilter text) = .ok f) : f.Decoded := by
  unfold Codec.decodeFilter at h
  split at h
  · simp at h
  · rename_i pre op post hfind
    dsimp only at h
    split at h
    · simp at h
    · rename_i hne
      simp only [Checked.result_lift, ofText_value, Except.ok.injEq] at h
      subst h
      obtain ⟨-, -, hnone⟩ := Codec.findToken_eq_some hfind
      have hfield : Text.trimChars pre ≠ [] := by
        simpa [String.isEmpty_iff, ← String.toList_eq_nil_iff] using hne
      exact ⟨pre, post, hnone, String.toList_ofList, by simpa using hfield, rfl, rfl⟩

end FilterDef

namespace OrderDef

/-- A sort key as decoding makes it from a part of a sort parameter: the field is not empty,
is its own trim and holds no comma. -/
structure Decoded (o : OrderDef) : Prop where
  field_ne : o.field.toList ≠ []
  field_trimmed : Text.trimChars o.field.toList = o.field.toList
  no_comma : ',' ∉ o.field.toList

/-- A decoded sort key whose field does not start with a sign is read back from its part. -/
theorem Decoded.writable {o : OrderDef} (h : o.Decoded)
    (hsign : ∀ c ∈ o.field.toList.head?, c ≠ '-' ∧ c ≠ '+') : o.Writable :=
  ⟨h.field_ne, h.field_trimmed, h.no_comma, hsign⟩

end OrderDef

namespace Codec

/-- The characters of a part left after trimming and dropping signs are characters of it. -/
theorem mem_of_mem_trimmed_field {part : List Char} {c : Char}
    (h : c ∈ Text.trimChars ((Text.trimChars part).dropWhile fun c => c = '-' || c = '+')) :
    c ∈ part := by
  have hsub : ∀ cs : List Char, ∀ c ∈ Text.trimChars cs, c ∈ cs := fun cs c hc => by
    obtain ⟨lead, trail, -, -, hcs⟩ := Text.eq_blank_append_trimChars_append_blank cs
    rw [hcs]
    simp [hc]
  exact hsub part c ((List.dropWhile_suffix _).subset (hsub _ c h))

/-- Every sort key of a sort parameter is decoded: the loop over the parts only ever adds the
key of one part, whose field is a trimmed, non-empty piece of a part without commas. -/
theorem decoded_of_mem_decodeOrders {value : String} :
    ∀ o ∈ (decodeOrders value).value, o.Decoded := by
  unfold decodeOrders
  rw [Logged.value_foldlM]
  refine List.foldlRecOn (motive := fun acc : List OrderDef => ∀ o ∈ acc, o.Decoded) _ _
    (fun _ ho => (List.not_mem_nil ho).elim) ?_
  intro acc hacc part hpart
  have hcomma : ∀ c ∈ part, (c == ',') = false := forall_of_mem_splitOnP hpart
  dsimp only
  split
  · simpa only [Logged.value_pure] using hacc
  · rename_i hne
    simp only [Logged.value_bind, Logged.value_pure, List.mem_append, List.mem_singleton]
    rintro o (ho | rfl)
    · exact hacc o ho
    · refine ⟨?_, ?_, ?_⟩
      · simpa using hne
      · simp
      · intro hc
        have := hcomma ',' (mem_of_mem_trimmed_field (by simpa using hc))
        simp at this

end Codec

namespace Definitions

/-- Definitions as decoding makes them: every filter and every sort key is decoded. -/
structure Decoded (d : Definitions) : Prop where
  filters : ∀ f ∈ d.filters, f.Decoded
  orders : ∀ o ∈ d.orders, o.Decoded

/-- Decoding one parameter keeps the definitions decoded: it adds a decoded filter, the
decoded sort keys of a sort parameter, or nothing. -/
theorem Decoded.decodeParam {keys : QueryKeys} {d d' : Definitions} {p : List Char}
    (hd : d.Decoded) (h : Checked.result (Codec.decodeParam keys d p) = .ok d') : d'.Decoded := by
  unfold Codec.decodeParam at h
  obtain ⟨key, -, h⟩ := Checked.result_bind_eq_ok.mp h
  obtain ⟨value, -, h⟩ := Checked.result_bind_eq_ok.mp h
  split at h
  · -- a filter parameter
    obtain ⟨f, hf, h⟩ := Checked.result_bind_eq_ok.mp h
    obtain ⟨-, -, h⟩ := Checked.result_bind_eq_ok.mp h
    cases h
    refine ⟨fun g hg => ?_, hd.orders⟩
    rcases List.mem_append.mp hg with hg | hg
    · exact hd.filters g hg
    · rw [List.mem_singleton.mp hg]
      exact FilterDef.decoded_of_decodeFilter hf
  · split at h
    · -- a sort parameter
      obtain ⟨os, hos, h⟩ := Checked.result_bind_eq_ok.mp h
      rw [Checked.result_lift, Except.ok.injEq] at hos
      cases h
      refine ⟨hd.filters, fun o ho => ?_⟩
      rcases List.mem_append.mp ho with ho | ho
      · exact hd.orders o ho
      · exact Codec.decoded_of_mem_decodeOrders o (hos ▸ ho)
    · -- any other parameter is ignored
      obtain ⟨-, -, h⟩ := Checked.result_bind_eq_ok.mp h
      cases h
      exact hd

/-- Everything decoding returns is decoded. -/
theorem decoded_of_decode {keys : QueryKeys} {q : String} {d : Definitions}
    (h : Checked.result (decode keys q) = .ok d) : d.Decoded :=
  Checked.result_foldlM_invariant (fun _ _ _ _ hb hstep => hb.decodeParam hstep)
    ⟨fun _ hf => (List.not_mem_nil hf).elim, fun _ ho => (List.not_mem_nil ho).elim⟩ h

end Definitions

end RecordQuery
