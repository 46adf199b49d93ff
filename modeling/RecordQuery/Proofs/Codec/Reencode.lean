import RecordQuery.Proofs.Codec.Decoded
import RecordQuery.Proofs.Codec.RoundTrip
import RecordQuery.Proofs.Value.Equal

/-!
# Encoding decoded definitions

Decoding forgets how a query string was written: the escapes, the blanks around a field and a
value, the run of signs before a sort key. Encoding writes field, token and kept text with
nothing between them, and `-` before a descending key. So the definitions that a query string
decodes to are decoded again from their encoding, exactly and with the same kept texts
(`decode_encode_decoded`), unless their text, now without the blanks, splits otherwise. That
happens in three ways, and each does happen (`decode_encode_decoded_differs`):

* a field ending in `!` meets a token that `!` joins: `a! =b` has the field `a!`, and `a!=b`
  the operator `!=`;
* a kept text starting with `*` meets `=`, or one starting with `=` meets `>` or `<`: `a= *b`
  has the value `*b`, and `a=*b` the operator `=*`;
* a sort field starts with a sign: `- -a` sorts the field `-a` descending, and `--a` the
  field `a`.
-/

namespace RecordQuery

deriving instance DecidableEq for FilterDef, OrderDef, Definitions

namespace FilterDef

variable {f : FilterDef}

/-- A decoded filter is read back from its kept text as it is: reading and trimming the
trimmed text give what reading and trimming the text gave. -/
theorem Decoded.reread_eq_self (h : f.Decoded) : f.reread = f := by
  obtain ⟨pre, post, -, -, -, hvalue, htext⟩ := h
  have hvt : f.valueText = Text.trim (String.ofList post) := by simp [valueText, htext]
  rw [reread_eq, hvt, Value.read_trim, Text.trim_trim, ← hvalue, ← htext]

/-- A decoded filter splits back at its token, unless its field ends with a `!` that the token
joins or its kept text makes the token longer. -/
theorem Decoded.splits (h : f.Decoded)
    (hbang : f.field.toList.getLast? = some '!' → Codec.joinsBang f.op = false)
    (hlong : ∀ c ∈ f.valueText.toList.head?, Codec.lengthens f.op c = false) : f.Splits := by
  obtain ⟨pre, post, hnone, hfield, hne, -, -⟩ := h
  obtain ⟨lead, trail, -, hblank, hpre⟩ := Text.eq_blank_append_trimChars_append_blank pre
  -- the blanks after the field, which encoding leaves out, do not start with `]`
  have htrail : trail.head? ≠ some ']' := by
    cases trail with
    | nil => simp
    | cons b t =>
      simp only [List.head?_cons, ne_eq, Option.some.injEq]
      rintro rfl
      exact absurd (hblank ']' List.mem_cons_self) (by decide)
  refine ⟨?_, by rw [hfield, Text.trimChars_trimChars], hne⟩
  rw [String.toList_append, String.toList_append]
  refine Codec.findToken_field_token_value ?_ hlong
  -- no token starts inside the field and the blanks after it, a suffix of the part before
  have hdrop : ∀ s, s ≠ [] → s <:+ Text.trimChars pre ++ trail →
      Codec.tokenAt (s ++ f.op.token.toList ++ post) = none := fun s hs hsuf =>
    hnone s hs (hsuf.trans ⟨lead, by rw [← List.append_assoc]; exact hpre.symm⟩)
  rw [hfield] at hbang ⊢
  exact Codec.tokenAt_dropped_eq_none hdrop htrail hbang

end FilterDef

/-- Definitions whose filters have equal values are equal to themselves. -/
theorem Definitions.beq_self {d : Definitions} (h : ∀ f ∈ d.filters, f.value.beq f.value = true) :
    d.beq d = true := by
  have hzf : ((d.filters.map id).zip d.filters).all (fun p => p.1.beq p.2) = true :=
    all_zip_map fun f hf => by simp [FilterDef.beq, h f hf]
  have hzo : ((d.orders.map id).zip d.orders).all (fun p => p.1.beq p.2) = true :=
    all_zip_map fun o _ => o.beq_self
  rw [List.map_id] at hzf hzo
  simp [Definitions.beq, hzf, hzo]

/-- Definitions that encoding writes in a way that splits back: no filter field ends with a
`!` that the filter's token joins, no kept text starts with `*` under `=` or with `=` under
`>` or `<`, and no sort field starts with a sign. -/
structure Definitions.Reencodable (d : Definitions) : Prop where
  no_bang : ∀ f ∈ d.filters, f.field.toList.getLast? = some '!' → Codec.joinsBang f.op = false
  eq_not_star : ∀ f ∈ d.filters, f.op = .eq → f.valueText.toList.head? ≠ some '*'
  cmp_not_eq : ∀ f ∈ d.filters, f.op = .gt ∨ f.op = .lt → f.valueText.toList.head? ≠ some '='
  no_sign : ∀ o ∈ d.orders, ∀ c ∈ o.field.toList.head?, c ≠ '-' ∧ c ≠ '+'

/-- Decoding the encoding of decoded definitions gives them back, kept texts included, and
they equal themselves, when the keys are unreserved and the definitions are reencodable. -/
theorem decode_encode_decoded {keys : QueryKeys} (hk : keys.Unreserved) {q : String}
    {d : Definitions} (hd : Checked.result (decode keys q) = .ok d) (hr : d.Reencodable) :
    Checked.result (decode keys (encode keys d)) = .ok d ∧ d.beq d = true := by
  have hdec := Definitions.decoded_of_decode hd
  have hsplits : ∀ f ∈ d.filters, f.Splits := fun f hf =>
    (hdec.filters f hf).splits (hr.no_bang f hf) fun c hc =>
      Codec.lengthens_eq_false (fun hop e => hr.eq_not_star f hf hop (e ▸ hc))
        (fun hop e => hr.cmp_not_eq f hf hop (e ▸ hc))
  have hwritable : ∀ o ∈ d.orders, o.Writable := fun o ho =>
    (hdec.orders o ho).writable (hr.no_sign o ho)
  -- every filter is read back as it is
  have hsame : (⟨d.filters.map FilterDef.reread, d.orders⟩ : Definitions) = d := by
    rw [List.map_congr_left fun f hf => (hdec.filters f hf).reread_eq_self, List.map_id']
  refine ⟨(Codec.result_decode_encode hk hsplits hwritable).trans (by rw [hsame]), ?_⟩
  refine Definitions.beq_self fun f hf => ?_
  obtain ⟨pre, post, -, -, -, hvalue, -⟩ := hdec.filters f hf
  rw [hvalue]
  exact Value.beq_read_self _

/-- A filter written with blanks around its token and sort keys with signs and blanks come
back from their encoding. -/
theorem decode_encode_decoded_name_ann :
    Checked.result (decode {} (encode {}
        ⟨[⟨"Name", .eq, .text "Ann", some "Ann"⟩], [⟨"Age", false⟩, ⟨"Name", true⟩]⟩)) =
      .ok ⟨[⟨"Name", .eq, .text "Ann", some "Ann"⟩], [⟨"Age", false⟩, ⟨"Name", true⟩]⟩ ∧
    Definitions.beq ⟨[⟨"Name", .eq, .text "Ann", some "Ann"⟩], [⟨"Age", false⟩, ⟨"Name", true⟩]⟩
      ⟨[⟨"Name", .eq, .text "Ann", some "Ann"⟩], [⟨"Age", false⟩, ⟨"Name", true⟩]⟩ = true :=
  decode_encode_decoded (q := "filter[]=Name+%3D+Ann&order=+Age,-Name")
    ⟨List.all_eq_true.mp (by decide), List.all_eq_true.mp (by decide)⟩
    (Checked.eq_ok_of_toOption (by decide +kernel))
    ⟨by simp only [List.mem_singleton, forall_eq]; decide,
      by simp only [List.mem_singleton, forall_eq]; decide,
      by simp only [List.mem_singleton, forall_eq]; decide,
      by
        intro o ho c hc
        simp only [List.mem_cons, List.not_mem_nil, or_false] at ho
        rcases ho with rfl | rfl <;> cases hc <;> decide⟩

/-- Three query strings whose decoded definitions come back otherwise from their encoding: a
field `a!` before `=` becomes the field `a` before `!=`; a kept text `*b` after `=` becomes
the operator `=*` and the text `b`; a descending sort field `-a` becomes `a`. -/
theorem decode_encode_decoded_differs :
    Checked.result (decode {} "filter[]=a!+=b") = .ok ⟨[⟨"a!", .eq, .text "b", some "b"⟩], []⟩ ∧
    Checked.result (decode {} (encode {} ⟨[⟨"a!", .eq, .text "b", some "b"⟩], []⟩)) =
      .ok ⟨[⟨"a", .ne, .text "b", some "b"⟩], []⟩ ∧
    Checked.result (decode {} "filter[]=a=+*b") = .ok ⟨[⟨"a", .eq, .text "*b", some "*b"⟩], []⟩ ∧
    Checked.result (decode {} (encode {} ⟨[⟨"a", .eq, .text "*b", some "*b"⟩], []⟩)) =
      .ok ⟨[⟨"a", .has, .text "b", some "b"⟩], []⟩ ∧
    Checked.result (decode {} "order=-+-a") = .ok ⟨[], [⟨"-a", true⟩]⟩ ∧
    Checked.result (decode {} (encode {} ⟨[], [⟨"-a", true⟩]⟩)) = .ok ⟨[], [⟨"a", true⟩]⟩ :=
  ⟨Checked.eq_ok_of_toOption (by decide +kernel), Checked.eq_ok_of_toOption (by decide +kernel),
    Checked.eq_ok_of_toOption (by decide +kernel), Checked.eq_ok_of_toOption (by decide +kernel),
    Checked.eq_ok_of_toOption (by decide +kernel), Checked.eq_ok_of_toOption (by decide +kernel)⟩

end RecordQuery
