import RecordQuery.Proofs.Value.Read
import RecordQuery.Proofs.Binary.Order

/-!
# Read values equal themselves

Values compare with IEEE equality on floats, so a value holding a NaN is not equal to
itself; every other value is (`Value.beq_self_of_noNaN`). Reading never gives a NaN: the
float reading accepts finite numbers only, and an array's items are read in the same way
(`Value.noNaN_read`). So a filter read from text is equal to itself, which is what lets
decoding an encoding be compared with the definitions it came from.

Apart from that comparison, values have a structural equality (`Value.eqb`), which decides
`=` (`Value.eq_of_eqb`, `Value.eqb_self`), so statements about decoded values can be
evaluated. The natural text of a read value need not read back as it: it escapes the commas of
an array's text items and not their backslashes or brackets (`Value.read_toText_read_differs`).
-/

namespace RecordQuery

namespace Binary64

/-- Every double but a NaN equals itself. -/
theorem ieeeEq_self {x : Binary64} (h : x.isNaN = false) : x.ieeeEq x = true := by
  simp [ieeeEq, compare?, h, totalCompare]

end Binary64

namespace Value

mutual

/-- No float of the value, at any depth, is a NaN. -/
def noNaN : Value → Bool
  | .float x => !x.isNaN
  | .array items => noNaNList items
  | _ => true

/-- No float of the values, at any depth, is a NaN. -/
def noNaNList : List Value → Bool
  | [] => true
  | v :: rest => noNaN v && noNaNList rest

end

theorem noNaNList_iff {vs : List Value} : noNaNList vs = true ↔ ∀ v ∈ vs, v.noNaN = true := by
  induction vs with
  | nil => simp [noNaNList]
  | cons v vs ih => simp [noNaNList, ih]

mutual

/-- A value without NaN equals itself. -/
theorem beq_self_of_noNaN : ∀ v : Value, v.noNaN = true → v.beq v = true
  | .integer _, _ => by simp [beq]
  | .float x, h => by
    simp only [noNaN, Bool.not_eq_eq_eq_not, Bool.not_true] at h
    simp [beq, Binary64.ieeeEq_self h]
  | .boolean _, _ => by simp [beq]
  | .uuid _, _ => by simp [beq]
  | .duration _, _ => by simp [beq]
  | .timestamp _, _ => by simp [beq]
  | .text _, _ => by simp [beq]
  | .array items, h => by
    simp only [beq]
    exact beqList_self_of_noNaN items h

/-- Values without NaN equal themselves, item by item. -/
theorem beqList_self_of_noNaN : ∀ vs : List Value, noNaNList vs = true → beqList vs vs = true
  | [], _ => rfl
  | v :: vs, h => by
    simp only [noNaNList, Bool.and_eq_true] at h
    simp [beqList, beq_self_of_noNaN v h.1, beqList_self_of_noNaN vs h.2]

end

end Value

/-- Every item that `collectAll` returns is the result of its function on some input. -/
theorem collectAll_value_eq_some {α β : Type} {xs : List α} {f : α → Logged (Option β)}
    {bs : List β} (h : (collectAll xs f).value = some bs) : ∀ b ∈ bs, ∃ a ∈ xs, (f a).value = some b := by
  induction xs generalizing bs with
  | nil =>
    cases h
    simp
  | cons a xs ih =>
    rw [collectAll, Logged.value_bind] at h
    cases ha : (f a).value with
    | none => simp [ha] at h
    | some b =>
      simp only [ha, Logged.value_bind] at h
      cases hr : (collectAll xs f).value with
      | none => simp [hr] at h
      | some bs' =>
        simp only [hr, Logged.value_pure, Option.some.injEq] at h
        subst h
        intro b' hb'
        rcases List.mem_cons.mp hb' with rfl | hb'
        · exact ⟨a, List.mem_cons_self, ha⟩
        · obtain ⟨a', ha', hfa'⟩ := ih hr b' hb'
          exact ⟨a', List.mem_cons_of_mem a ha', hfa'⟩

/-- A scalar reading gives no NaN: the float reading accepts finite numbers only. -/
theorem Reading.noNaN_scalar? {r : Reading} {cs : List Char} {v : Value} (h : r.scalar? cs = some v) :
    v.noNaN = true := by
  cases r with
  | float =>
    simp only [scalar?] at h
    split at h
    · rename_i x _
      split at h
      · rename_i hfin
        cases h
        simp [Value.noNaN, Binary64.isNaN_eq_false_of_isFinite hfin]
      · cases h
    · cases h
  | array => cases h
  | text =>
    simp only [scalar?, Option.some.injEq] at h
    subst h
    rfl
  | integer | boolean | uuid | duration | timestamp =>
    simp only [scalar?, Option.map_eq_some_iff] at h
    obtain ⟨_, -, rfl⟩ := h
    rfl

/-- An array read from text holds no NaN at any depth. The induction is on the length of the
text: every element is shorter than its array. -/
theorem noNaN_readArray (cs : List Char) : ∀ v, (readArray cs).value = some v → v.noNaN = true := by
  induction cs using (measure List.length).wf.induction with
  | h cs ih =>
    intro v h
    rw [readArray] at h
    split at h
    · cases h
    · cases h
      rfl
    · rename_i es _ hes
      rw [Logged.value_bind] at h
      split at h
      · rename_i r items hfound
        simp only [Logged.value_bind, Logged.value_pure, Option.some.injEq] at h
        subst h
        obtain ⟨-, hcollect⟩ := Reading.firstOf_value_eq_some hfound
        simp only [Value.noNaN, Value.noNaNList_iff]
        intro item hitem
        obtain ⟨⟨e, he⟩, -, hitem'⟩ := collectAll_value_eq_some hcollect item hitem
        cases r with
        | array => exact ih e (Elements.length_lt_of_mem_elements? hes he) item hitem'
        | _ =>
          dsimp only at hitem'
          rw [Logged.value_pure] at hitem'
          exact Reading.noNaN_scalar? hitem'
      · cases h

namespace Value

/-- Reading never gives a NaN. -/
theorem noNaN_read (s : String) : (read s).noNaN = true := by
  unfold read readLogged
  rw [Logged.value_bind]
  split
  · rename_i r v hfound
    simp only [Logged.value_bind, Logged.value_pure]
    obtain ⟨-, hf⟩ := Reading.firstOf_value_eq_some hfound
    cases r with
    | array => exact noNaN_readArray _ v hf
    | _ =>
      dsimp only at hf
      rw [Logged.value_pure] at hf
      exact Reading.noNaN_scalar? hf
  · rfl

/-- A value read from text equals itself. -/
theorem beq_read_self (s : String) : (read s).beq (read s) = true :=
  beq_self_of_noNaN _ (noNaN_read s)

mutual

/-- Structural equality of values: the same constructor and the same contents, floats
compared bit for bit. -/
def eqb : Value → Value → Bool
  | .integer a, .integer b => decide (a = b)
  | .float a, .float b => decide (a = b)
  | .boolean a, .boolean b => a == b
  | .uuid a, .uuid b => decide (a = b)
  | .duration a, .duration b => decide (a = b)
  | .timestamp a, .timestamp b => decide (a = b)
  | .text a, .text b => decide (a = b)
  | .array as, .array bs => eqbList as bs
  | _, _ => false

/-- Structural equality of lists of values, item by item. -/
def eqbList : List Value → List Value → Bool
  | [], [] => true
  | v :: vs, w :: ws => eqb v w && eqbList vs ws
  | _, _ => false

end

mutual

theorem eq_of_eqb : ∀ v w : Value, eqb v w = true → v = w
  | .array as, w, h => by
    cases w with
    | array bs =>
      simp only [eqb] at h
      rw [eqList_of_eqbList as bs h]
    | _ => simp [eqb] at h
  | .integer _, w, h | .float _, w, h | .boolean _, w, h | .uuid _, w, h | .duration _, w, h
  | .timestamp _, w, h | .text _, w, h => by cases w <;> simp_all [eqb]

theorem eqList_of_eqbList : ∀ vs ws : List Value, eqbList vs ws = true → vs = ws
  | [], ws, h => by cases ws <;> simp_all [eqbList]
  | v :: vs, ws, h => by
    cases ws with
    | nil => simp [eqbList] at h
    | cons w ws =>
      simp only [eqbList, Bool.and_eq_true] at h
      rw [eq_of_eqb v w h.1, eqList_of_eqbList vs ws h.2]

end

mutual

theorem eqb_self : ∀ v : Value, eqb v v = true
  | .array items => by
    simp only [eqb]
    exact eqbList_self items
  | .integer _ | .float _ | .boolean _ | .uuid _ | .duration _ | .timestamp _ | .text _ => by
    simp [eqb]

theorem eqbList_self : ∀ vs : List Value, eqbList vs vs = true
  | [] => rfl
  | v :: vs => by simp [eqbList, eqb_self v, eqbList_self vs]

end

/-- Equality of values is decidable, by structural comparison. -/
instance : DecidableEq Value := fun v w =>
  decidable_of_iff (eqb v w = true) ⟨eq_of_eqb v w, fun h => h ▸ eqb_self v⟩

/-- A value read from text need not be read back from its natural text, which escapes the
commas of text items and nothing else. A text item ending with a backslash turns the
backslash and the comma after it into an escaped comma: `[a\ ,b]` reads as the items `a\`
and `b`, written `[a\,b]`, which reads as the one item `a,b`. A text item holding brackets
keeps its escaped commas as written: `[[1,2],3]` reads as the texts `[1,2]` and `3`, written
`[[1\,2],3]`, which reads as the texts `[1\,2]` and `3`. -/
theorem read_toText_read_differs :
    read "[a\\ ,b]" = .array [.text "a\\", .text "b"] ∧
      (Value.array [.text "a\\", .text "b"]).toText = "[a\\,b]" ∧
      read "[a\\,b]" = .array [.text "a,b"] ∧
      (read (read "[a\\ ,b]").toText).beq (read "[a\\ ,b]") = false ∧
    read "[[1,2],3]" = .array [.text "[1,2]", .text "3"] ∧
      (Value.array [.text "[1,2]", .text "3"]).toText = "[[1\\,2],3]" ∧
      read "[[1\\,2],3]" = .array [.text "[1\\,2]", .text "3"] ∧
      (read (read "[[1,2],3]").toText).beq (read "[[1,2],3]") = false := by
  decide +kernel

end Value

end RecordQuery
