import RecordQuery.Proofs.Checked
import RecordQuery.Codec

/-!
# Decoding query strings joined by `&`

A query string is decoded parameter by parameter from the empty definitions, and a parameter
only appends to what the parameters before it gave: decoding it after `d` is decoding it
alone and putting `d` in front (`Codec.decodeParam_append`), log lines and errors included.
The loop over the parameters therefore commutes with putting definitions in front
(`Codec.foldlM_decodeParam_append`).

Joining two query strings with `&` joins their parameter lists, once the first has lost its
leading `?` and when the second does not start with one (`Codec.queryParams_join`). So the
joined string decodes as the first one and then the second one (`decode_join_eq_bind`): it
fails with the error of the first, else with the error of the second, and otherwise returns
the filters and the sort keys of both, those of the first in front (`decode_join`).
-/

namespace RecordQuery

namespace Definitions

/-- The filters and the sort keys of `d`, followed by those of `e`. -/
def append (d e : Definitions) : Definitions := ⟨d.filters ++ e.filters, d.orders ++ e.orders⟩

instance : Append Definitions := ⟨append⟩

@[simp] theorem filters_append (d e : Definitions) : (d ++ e).filters = d.filters ++ e.filters :=
  rfl

@[simp] theorem orders_append (d e : Definitions) : (d ++ e).orders = d.orders ++ e.orders := rfl

theorem ext_iff' {d e : Definitions} : d = e ↔ d.filters = e.filters ∧ d.orders = e.orders := by
  cases d
  cases e
  simp

@[simp] theorem empty_append (d : Definitions) : ({} : Definitions) ++ d = d := by
  simp [ext_iff']

@[simp] theorem append_empty (d : Definitions) : d ++ ({} : Definitions) = d := by
  simp [ext_iff']

theorem append_assoc (d e f : Definitions) : d ++ e ++ f = d ++ (e ++ f) := by
  simp [ext_iff']

theorem pushFilter_append (d e : Definitions) (f : FilterDef) :
    (d ++ e).pushFilter f = d ++ e.pushFilter f := by
  simp [ext_iff', pushFilter]

end Definitions

namespace Codec

/-- A query string without the one `?` it may start with. -/
def dropQuestion : List Char → List Char
  | '?' :: r => r
  | r => r

/-- The parameters of a query string: the parts between `&`s that are not empty, after the
leading `?` is dropped. -/
def queryParams (query : List Char) : List (List Char) :=
  ((dropQuestion query).splitOn '&').filter (!·.isEmpty)

/-- Decoding is the loop over the parameters, from the empty definitions. -/
theorem decode_eq_foldlM (keys : QueryKeys) (query : String) :
    decode keys query = (queryParams query.toList).foldlM (decodeParam keys) {} := by
  rfl

theorem dropQuestion_join (q₁ q₂ : List Char) :
    dropQuestion (q₁ ++ '&' :: q₂) = dropQuestion q₁ ++ '&' :: q₂ := by
  cases q₁ with
  | nil => rfl
  | cons c r => by_cases hc : c = '?' <;> simp [dropQuestion, hc]

theorem dropQuestion_of_head {q : List Char} (h : q.head? ≠ some '?') : dropQuestion q = q := by
  match q, h with
  | [], _ => rfl
  | c :: r, h =>
    have hc : c ≠ '?' := fun e => h (by rw [e]; rfl)
    simp [dropQuestion, hc]

/-- Joining two query strings with `&` joins their parameters, when the second does not start
with `?`. -/
theorem queryParams_join {q₁ q₂ : List Char} (h : q₂.head? ≠ some '?') :
    queryParams (q₁ ++ '&' :: q₂) = queryParams q₁ ++ queryParams q₂ := by
  rw [queryParams, dropQuestion_join, List.splitOn_append_cons_self, List.filter_append,
    queryParams, queryParams, dropQuestion_of_head h]

/-- Decoding a parameter after `d` is decoding it after `e` and putting `d` in front. -/
theorem decodeParam_append (keys : QueryKeys) (d e : Definitions) (p : List Char) :
    decodeParam keys (d ++ e) p = (d ++ ·) <$> decodeParam keys e p := by
  unfold decodeParam
  simp only [map_bind]
  -- key and value are decoded alike; the three kinds of parameter then append alike
  refine congrArg (_ >>= ·) (funext fun key => congrArg (_ >>= ·) (funext fun value => ?_))
  split
  · simp only [map_bind, map_pure, Definitions.pushFilter_append]
  · split
    · simp only [map_bind, map_pure, Definitions.filters_append, Definitions.orders_append,
        List.append_assoc]
      rfl
    · simp only [map_bind, map_pure]

/-- The loop over parameters commutes with putting definitions in front. -/
theorem foldlM_decodeParam_append (keys : QueryKeys) (d : Definitions) (ps : List (List Char))
    (e : Definitions) :
    ps.foldlM (decodeParam keys) (d ++ e) = (d ++ ·) <$> ps.foldlM (decodeParam keys) e := by
  induction ps generalizing e with
  | nil => simp
  | cons p ps ih =>
    simp only [List.foldlM_cons, decodeParam_append, bind_map_left, ih, map_bind]

/-- The loop over parameters from `d` puts `d` in front of the loop from nothing. -/
theorem foldlM_decodeParam_eq_map (keys : QueryKeys) (d : Definitions) (ps : List (List Char)) :
    ps.foldlM (decodeParam keys) d = (d ++ ·) <$> ps.foldlM (decodeParam keys) {} := by
  simpa using foldlM_decodeParam_append keys d ps {}

end Codec

open Codec in
/-- A query string joined to another by `&` decodes as the first one and then the second,
their definitions put one after the other; the second must not start with `?`. -/
theorem decode_join_eq_bind (keys : QueryKeys) (q₁ q₂ : String)
    (h : q₂.toList.head? ≠ some '?') :
    decode keys (q₁ ++ "&" ++ q₂) =
      decode keys q₁ >>= fun d₁ => (d₁ ++ ·) <$> decode keys q₂ := by
  have hjoin : (q₁ ++ "&" ++ q₂).toList = q₁.toList ++ '&' :: q₂.toList := by
    simp [String.toList_append]
  rw [decode_eq_foldlM, hjoin, queryParams_join h, List.foldlM_append, decode_eq_foldlM,
    decode_eq_foldlM]
  congr 1
  funext d₁
  exact foldlM_decodeParam_eq_map keys d₁ _

/-- Decoding is a homomorphism from query strings joined by `&` to definitions put one after
the other. When the first string does not decode, the joined one fails with its error; else,
when the second does not decode, with the second one's error; and otherwise the joined string
decodes to the filters of the first followed by those of the second, and to the sort keys of
the first followed by those of the second. The second string must not start with `?`. -/
theorem decode_join (keys : QueryKeys) (q₁ q₂ : String) (h : q₂.toList.head? ≠ some '?') :
    (∀ e, Checked.result (decode keys q₁) = .error e →
      Checked.result (decode keys (q₁ ++ "&" ++ q₂)) = .error e) ∧
    (∀ d₁ e, Checked.result (decode keys q₁) = .ok d₁ →
      Checked.result (decode keys q₂) = .error e →
      Checked.result (decode keys (q₁ ++ "&" ++ q₂)) = .error e) ∧
    (∀ d₁ d₂, Checked.result (decode keys q₁) = .ok d₁ →
      Checked.result (decode keys q₂) = .ok d₂ →
      Checked.result (decode keys (q₁ ++ "&" ++ q₂)) =
        .ok ⟨d₁.filters ++ d₂.filters, d₁.orders ++ d₂.orders⟩) := by
  have hjoin := decode_join_eq_bind keys q₁ q₂ h
  refine ⟨fun e h₁ => ?_, fun d₁ e h₁ h₂ => ?_, fun d₁ d₂ h₁ h₂ => ?_⟩
  · rw [hjoin, Checked.result_bind, h₁]
  · rw [hjoin, Checked.result_bind, h₁]
    dsimp only
    rw [Checked.result_map, h₂]
  · rw [hjoin, Checked.result_bind, h₁]
    dsimp only
    rw [Checked.result_map, h₂]
    rfl

/-- A filter after a `?`, joined to two sort keys. -/
theorem decode_join_ageDate :
    "order=-Date,Name".toList.head? ≠ some '?' ∧
    (∀ e, Checked.result (decode {} "?filter[]=Age%3E%3D30") = .error e →
      Checked.result (decode {} ("?filter[]=Age%3E%3D30" ++ "&" ++ "order=-Date,Name")) =
        .error e) ∧
    (∀ d₁ e, Checked.result (decode {} "?filter[]=Age%3E%3D30") = .ok d₁ →
      Checked.result (decode {} "order=-Date,Name") = .error e →
      Checked.result (decode {} ("?filter[]=Age%3E%3D30" ++ "&" ++ "order=-Date,Name")) =
        .error e) ∧
    (∀ d₁ d₂, Checked.result (decode {} "?filter[]=Age%3E%3D30") = .ok d₁ →
      Checked.result (decode {} "order=-Date,Name") = .ok d₂ →
      Checked.result (decode {} ("?filter[]=Age%3E%3D30" ++ "&" ++ "order=-Date,Name")) =
        .ok ⟨d₁.filters ++ d₂.filters, d₁.orders ++ d₂.orders⟩) :=
  ⟨by decide, decode_join {} "?filter[]=Age%3E%3D30" "order=-Date,Name" (by decide)⟩

end RecordQuery
