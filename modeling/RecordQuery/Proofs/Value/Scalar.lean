import RecordQuery.Proofs.Value.ReadBack
import RecordQuery.Proofs.Calendar.Text
import RecordQuery.Proofs.Value.Read
import RecordQuery.Proofs.Binary.Text

/-!
# Reading the text of a scalar

Reading a text tries the readings in a fixed order and takes the first that accepts it
(`Value.read_eq_of_firstAccepts`, stated with `Reading.FirstAccepts`). The text of a scalar
other than a text is accepted first by the scalar's own reading, which gives the scalar back
(`Value.firstAccepts_toText`, `Value.read_toText`), as long as the scalar can be written and
read back at all (`Value.ReadsBack`: floats are finite, timestamps name real instants).

That the readings before its own refuse a scalar's text is read off the characters it holds:
a float is written with a point or an exponent, which no integer holds; `true` and `false`
hold letters no number uses; a UUID holds four hyphens, more than any integer or float
literal; a duration and a timestamp hold a colon, which no number, boolean or UUID that
starts with a digit holds; and the year of a timestamp is no hour.

A text that starts with a bracket is refused by every scalar reading
(`Reading.valueOn_eq_none_of_bracket`), which leaves it to the array reading.
-/

namespace RecordQuery

namespace Int128

/-- A text with a character other than a digit or a sign is no integer. -/
theorem read?_eq_none_of_mem {cs : List Char} {c : Char} (hc : c ∈ cs)
    (h : Decimal.isDigit c = false ∧ c ≠ '+' ∧ c ≠ '-') : read? cs = none := by
  cases hr : read? cs with
  | none => rfl
  | some n =>
    rcases (signedDigits_of_read? hr).mem c hc with hd | hp | hm
    · simp [h.1] at hd
    · exact absurd hp h.2.1
    · exact absurd hm h.2.2

/-- A text with two hyphens is no integer. -/
theorem read?_eq_none_of_count {cs : List Char} (h : 2 ≤ cs.count '-') : read? cs = none := by
  cases hr : read? cs with
  | none => rfl
  | some n =>
    have := (signedDigits_of_read? hr).count_hyphen
    omega

end Int128

namespace DecimalLiteral

/-- A text with a character that no float literal uses is no float. -/
theorem read?_eq_none_of_mem {cs : List Char} {c : Char} (hc : c ∈ cs)
    (h : isLiteralChar (lowerAscii c) = false) : read? cs = none := by
  cases hr : read? cs with
  | none => rfl
  | some l => simp [(chars_of_read? hr).1 c hc] at h

/-- A text with three hyphens is no float. -/
theorem read?_eq_none_of_count {cs : List Char} (h : 3 ≤ cs.count '-') : read? cs = none := by
  cases hr : read? cs with
  | none => rfl
  | some l =>
    have := (chars_of_read? hr).2
    omega

end DecimalLiteral

namespace Reading

/-- A text with a letter outside `true` and `false` is no boolean. -/
theorem boolean?_eq_none_of_mem {cs : List Char} {c : Char} (hc : c ∈ cs)
    (h : DecimalLiteral.lowerAscii c ∉ "truefals".toList) : boolean? cs = none := by
  cases hr : boolean? cs with
  | none => rfl
  | some b => exact absurd (boolChar_of_boolean? hr c hc) h

end Reading

namespace Uuid

/-- A text that starts with neither a hex digit, a brace nor the `u` of `urn:` is no UUID. -/
theorem read?_eq_none_of_head {cs : List Char}
    (h : ∀ c ∈ cs.head?, isHex c = false ∧ c ≠ '{' ∧ c.toLower ≠ 'u') : read? cs = none := by
  cases hr : read? cs with
  | none => rfl
  | some u =>
    match cs, h, hr with
    | [], _, hr => simp [read?] at hr
    | c :: r, h, hr =>
      obtain ⟨hx, hb, hu⟩ := h c rfl
      rcases head_of_read? hr c rfl with h' | h' | h'
      · simp [hx] at h'
      · exact absurd h' hb
      · exact absurd h' hu

/-- A text that starts with a decimal digit and holds a character that is neither a hex digit
nor a hyphen is no UUID. -/
theorem read?_eq_none_of_mem {cs : List Char} (hd : ∀ c ∈ cs.head?, Decimal.isDigit c = true)
    {c : Char} (hc : c ∈ cs) (h : isHex c = false ∧ c ≠ '-') : read? cs = none := by
  cases hr : read? cs with
  | none => rfl
  | some u =>
    rcases isHex_of_read? hr hd c hc with h' | h'
    · simp [h.1] at h'
    · exact absurd h' h.2

end Uuid

namespace FloatStyle

theorem point_mem_positional (ds : List Char) (k : Int) : '.' ∈ positional ds k := by
  unfold positional
  split
  · simp
  · split <;> simp

theorem e_mem_scientific (ds : List Char) (k : Int) : 'e' ∈ scientific ds k := by
  simp [scientific]
/-- A written body, positional or scientific, has a point or an exponent. -/
theorem point_or_e_mem_body (b : Bool) (ds : List Char) (k : Int) :
    '.' ∈ (if b = true then positional ds k else scientific ds k) ∨
      'e' ∈ (if b = true then positional ds k else scientific ds k) := by
  cases b
  · exact .inr (by simpa using e_mem_scientific ds k)
  · exact .inl (by simpa using point_mem_positional ds k)
end FloatStyle

/-- A finite float is written with a point or an exponent. -/
theorem Binary64.point_or_e_mem_toText {x : Binary64} (hx : x.isFinite = true) :
    '.' ∈ x.toText.toList ∨ 'e' ∈ x.toText.toList := by
  unfold isFinite at hx
  split at hx
  · rename_i neg m q hview
    simp only [toText, FloatStyle.render, hview]
    split
    · exact .inl (by simp)
    · simp only [String.toList_append, String.toList_ofList, List.mem_append]
      rcases FloatStyle.point_or_e_mem_body _ _ _ with h | h
      · exact .inl (.inr h)
      · exact .inr (.inr h)
  all_goals cases hx
namespace Reading

/-- What a reading gives for a text: the scalar it reads, or for the array reading the array
read from the text's elements. -/
def valueOn (cs : List Char) (r : Reading) : Option Value :=
  match r with
  | .array => (readArray cs).value
  | r => r.scalar? cs

/-- The readings tried before `r`. -/
def before (r : Reading) : List Reading := all.takeWhile (· ≠ r)

@[simp] theorem before_integer : before .integer = [] := rfl
@[simp] theorem before_float : before .float = [.integer] := rfl
@[simp] theorem before_boolean : before .boolean = [.integer, .float] := rfl
@[simp] theorem before_uuid : before .uuid = [.integer, .float, .boolean] := rfl
@[simp] theorem before_duration : before .duration = [.integer, .float, .boolean, .uuid] := rfl
@[simp] theorem before_timestamp :
    before .timestamp = [.integer, .float, .boolean, .uuid, .duration] := rfl
@[simp] theorem before_array :
    before .array = [.integer, .float, .boolean, .uuid, .duration, .timestamp] := rfl
@[simp] theorem before_text :
    before .text = [.integer, .float, .boolean, .uuid, .duration, .timestamp, .array] := rfl

theorem all_eq_before_append (r : Reading) : ∃ post, all = r.before ++ r :: post := by
  cases r <;> exact ⟨_, rfl⟩

/-- The reading `r` is the first to accept a text, with the value `v`. -/
structure FirstAccepts (cs : List Char) (r : Reading) (v : Value) : Prop where
  refused : ∀ r' ∈ r.before, r'.valueOn cs = none
  accepts : r.valueOn cs = some v

variable {α : Type}

/-- Readings that give nothing are passed over. -/
theorem firstOf_value_append {pre rs : List Reading} {f : Reading → Logged (Option α)}
    (h : ∀ r ∈ pre, (f r).value = none) : (firstOf (pre ++ rs) f).value = (firstOf rs f).value := by
  induction pre with
  | nil => rfl
  | cons r pre ih =>
    rw [List.cons_append, firstOf, Logged.value_bind, h r List.mem_cons_self]
    exact ih fun r' hr' => h r' (List.mem_cons_of_mem r hr')

/-- The first reading that gives something is taken, with what it gives. -/
theorem firstOf_value_of_first {f : Reading → Logged (Option α)} {r : Reading} {a : α}
    (hpre : ∀ r' ∈ r.before, (f r').value = none) (hr : (f r).value = some a) :
    (firstOf all f).value = some (r, a) := by
  obtain ⟨post, hall⟩ := all_eq_before_append r
  rw [hall, firstOf_value_append hpre, firstOf, Logged.value_bind, hr]
  rfl

end Reading

namespace Value

open Reading

/-- Reading a text gives what its first accepting reading gives. -/
theorem read_eq_of_firstAccepts {s : String} {r : Reading} {v : Value}
    (h : FirstAccepts s.toList r v) : read s = v := by
  -- whatever the readings log, the first accepting one is taken
  have hfirst : ∀ F : Reading → Logged (Option Value),
      (∀ r', (F r').value = valueOn s.toList r') → (firstOf all F).value = some (r, v) :=
    fun F hF => firstOf_value_of_first (fun r' hr' => (hF r').trans (h.refused r' hr'))
      ((hF r).trans h.accepts)
  unfold read readLogged
  rw [Logged.value_bind, hfirst _ (fun r' => by cases r' <;> rfl)]
  rfl

end Value

namespace Duration

theorem colon_mem_toText (d : Duration) : ':' ∈ d.toText.toList := by
  simp [toText_toList]

/-- The text of a duration starts with a digit or its minus sign. -/
theorem head_toText (d : Duration) :
    ∀ c ∈ d.toText.toList.head?, Decimal.isDigit c = true ∨ c = '-' := by
  intro c hc
  rw [toText_toList] at hc
  split at hc
  · simp only [List.singleton_append, List.head?_cons, Option.mem_def, Option.some.injEq] at hc
    exact .inr hc.symm
  · rw [List.nil_append] at hc
    exact .inl (head_dayPart_isDigit _ _ _ c hc)

end Duration

namespace Timestamp

theorem colon_mem_toText (t : Timestamp) : ':' ∈ t.toText.toList := by
  simp [toText_toList]

/-- The text of a year is its four or more digits, after a sign when it is not `0` to `9999`. -/
theorem yearText_eq (y : Int) :
    (Date.yearText y).toList = Decimal.padDigits 4 y.natAbs ∨
      (Date.yearText y).toList = '-' :: Decimal.padDigits 4 y.natAbs ∨
      (Date.yearText y).toList = '+' :: Decimal.padDigits 4 y.natAbs := by
  unfold Date.yearText
  split
  · exact .inl (by simp [Decimal.padText])
  · split
    · exact .inr (.inl (by simp [Decimal.padText]))
    · exact .inr (.inr (by simp [Decimal.padText]))

/-- The text of a timestamp starts with a digit or the sign of its year. -/
theorem head_toText (t : Timestamp) :
    ∀ c ∈ t.toText.toList.head?, Decimal.isDigit c = true ∨ c = '-' ∨ c = '+' := by
  intro c hc
  rw [toText_toList] at hc
  rcases yearText_eq t.date.year with h | h | h <;> rw [h] at hc
  · rw [List.head?_append_of_ne_nil _ (Decimal.padDigits_ne_nil _ _)] at hc
    exact .inl (Decimal.isDigit_of_mem_padDigits (List.mem_of_mem_head? hc))
  · simp only [List.cons_append, List.head?_cons, Option.mem_def, Option.some.injEq] at hc
    exact .inr (.inl hc.symm)
  · simp only [List.cons_append, List.head?_cons, Option.mem_def, Option.some.injEq] at hc
    exact .inr (.inr hc.symm)

/-- A timestamp's text is no duration: its year has no digits after the sign, or more than two,
and a hyphen follows them. -/
theorem duration_read?_toText (t : Timestamp) : Duration.read? t.toText.toList = none := by
  obtain ⟨R, hR⟩ : ∃ R, t.toText.toList = (Date.yearText t.date.year).toList ++ '-' :: R :=
    ⟨_, toText_toList t⟩
  have htrim := Text.trimChars_eq_self_of_forall (noBlank_toText t)
  have hhyphen : ∀ c ∈ ('-' :: R).head?, Decimal.isDigit c = false ∧ c ≠ '.' := by
    intro c hc
    simp only [List.head?_cons, Option.mem_def, Option.some.injEq] at hc
    subst hc
    decide
  have hpad : ∀ c ∈ Decimal.padDigits 4 t.date.year.natAbs, Decimal.isDigit c = true :=
    fun c hc => Decimal.isDigit_of_mem_padDigits hc
  have hlen : 3 ≤ (Decimal.padDigits 4 t.date.year.natAbs).length := by
    rw [Decimal.length_padDigits]
    omega
  rw [hR] at htrim ⊢
  rcases yearText_eq t.date.year with h | h | h <;> rw [h] at htrim ⊢
  · refine @Duration.read?_eq_none_of_lead _ _ ('-' :: R) false ?_ hpad (.inr hlen) hhyphen
    rw [htrim, Duration.splitSign_of_isDigit]
    intro c hc
    rw [List.head?_append_of_ne_nil _ (Decimal.padDigits_ne_nil _ _)] at hc
    exact Decimal.isDigit_of_mem_padDigits (List.mem_of_mem_head? hc)
  · refine @Duration.read?_eq_none_of_lead _ _ ('-' :: R) true ?_ hpad (.inr hlen) hhyphen
    rw [htrim, List.cons_append]
    rfl
  · refine @Duration.read?_eq_none_of_lead _ []
      ('+' :: (Decimal.padDigits 4 t.date.year.natAbs ++ '-' :: R)) false ?_ (by simp) (.inl rfl)
      (fun c hc => by
        simp only [List.head?_cons, Option.mem_def, Option.some.injEq] at hc
        subst hc
        decide)
    rw [htrim, List.cons_append, Duration.splitSign_of_ne (by decide)]
    rfl

end Timestamp

namespace Reading

/-- A text without blanks that holds a colon and starts with a digit or a sign is refused by
the readings of integers, floats, booleans and UUIDs. -/
theorem valueOn_eq_none_of_colon {cs : List Char} (hb : Text.NoBlank cs) (hcolon : ':' ∈ cs)
    (hhead : ∀ c ∈ cs.head?, Decimal.isDigit c = true ∨ c = '-' ∨ c = '+') {r : Reading}
    (hr : r ∈ [.integer, .float, .boolean, .uuid]) : r.valueOn cs = none := by
  have htrim := Text.trimChars_eq_self_of_forall hb
  simp only [List.mem_cons, List.not_mem_nil, or_false] at hr
  rcases hr with rfl | rfl | rfl | rfl
  · simp [valueOn, scalar?, htrim, Int128.read?_eq_none_of_mem hcolon (by decide)]
  · simp [valueOn, scalar?, htrim, Binary64.read?,
      DecimalLiteral.read?_eq_none_of_mem hcolon (by decide)]
  · simp [valueOn, scalar?, htrim, boolean?_eq_none_of_mem hcolon (by decide)]
  · -- a UUID that starts with a decimal digit holds no colon, and none starts with a sign
    have huuid : Uuid.read? cs = none := by
      cases cs with
      | nil => rfl
      | cons c r =>
        rcases hhead c rfl with hd | rfl | rfl
        · exact Uuid.read?_eq_none_of_mem (fun d hd' => by cases hd'; exact hd) hcolon
            (by decide)
        · exact Uuid.read?_eq_none_of_head fun d hd' => by cases hd'; decide
        · exact Uuid.read?_eq_none_of_head fun d hd' => by cases hd'; decide
    simp [valueOn, scalar?, htrim, huuid]

/-- A text that starts with a bracket once trimmed is refused by every scalar reading. -/
theorem valueOn_eq_none_of_bracket {cs : List Char} (h : (Text.trimChars cs).head? = some '[')
    {r : Reading} (hr : r ∈ before .array) : r.valueOn cs = none := by
  obtain ⟨rest, hrest⟩ : ∃ rest, Text.trimChars cs = '[' :: rest := by
    cases hcs : Text.trimChars cs with
    | nil => simp [hcs] at h
    | cons c rest =>
      rw [hcs, List.head?_cons, Option.some.injEq] at h
      exact ⟨rest, by rw [h]⟩
  have hmem : '[' ∈ Text.trimChars cs := by simp [hrest]
  simp only [before_array, List.mem_cons, List.not_mem_nil, or_false] at hr
  rcases hr with rfl | rfl | rfl | rfl | rfl | rfl
  · simp [valueOn, scalar?, Int128.read?_eq_none_of_mem hmem (by decide)]
  · simp [valueOn, scalar?, Binary64.read?, DecimalLiteral.read?_eq_none_of_mem hmem (by decide)]
  · simp [valueOn, scalar?, boolean?_eq_none_of_mem hmem (by decide)]
  · have huuid : Uuid.read? (Text.trimChars cs) = none :=
      Uuid.read?_eq_none_of_head fun c hc => by
        rw [hrest, List.head?_cons, Option.mem_def, Option.some.injEq] at hc
        subst hc
        decide
    simp [valueOn, scalar?, huuid]
  · have hdur : Duration.read? cs = none := by
      refine @Duration.read?_eq_none_of_lead cs [] ('[' :: rest) false ?_ (by simp) (.inl rfl)
        fun c hc => ?_
      · rw [hrest, Duration.splitSign_of_ne (by decide)]
        rfl
      · rw [List.head?_cons, Option.mem_def, Option.some.injEq] at hc
        subst hc
        decide
    simp [valueOn, scalar?, hdur]
  · have hts : Timestamp.read? cs = none :=
      Timestamp.read?_eq_none_of_head fun c hc => by
        rw [hrest, List.head?_cons, Option.mem_def, Option.some.injEq] at hc
        subst hc
        decide
    simp [valueOn, scalar?, hts]

end Reading

namespace Value

open Reading

/-- The reading that gives a value of this kind. -/
def reading : Value → Reading
  | .integer _ => .integer
  | .float _ => .float
  | .boolean _ => .boolean
  | .uuid _ => .uuid
  | .duration _ => .duration
  | .timestamp _ => .timestamp
  | .text _ => .text
  | .array _ => .array

/-- A scalar other than a text that can be written and read back: a float that is finite, a
timestamp that names a real instant. -/
def ReadsBack : Value → Prop
  | .integer _ | .boolean _ | .uuid _ | .duration _ => True
  | .float x => x.isFinite = true
  | .timestamp t => t.Valid
  | .text _ | .array _ => False

/-- The text of a scalar that reads back is first accepted by the scalar's own reading, which
gives the scalar. -/
theorem firstAccepts_toText {v : Value} (hv : v.ReadsBack) :
    FirstAccepts v.toText.toList v.reading v := by
  cases v with
  | integer n =>
    rw [show (integer n).toText = n.toText from rfl]
    have htrim := Text.trimChars_eq_self_of_forall (Decimal.noBlank_intText n.val)
    refine ⟨fun r hr => by simp [reading] at hr, ?_⟩
    simp only [valueOn, scalar?, reading]
    rw [show n.toText = Decimal.intText n.val from rfl, htrim, ← show n.toText =
      Decimal.intText n.val from rfl, Int128.read?_toText]
    rfl
  | float x =>
    have hx : x.isFinite = true := hv
    rw [show (float x).toText = x.toText from rfl]
    have htrim := Text.trimChars_eq_self_of_forall (Binary64.noBlank_toText x)
    refine ⟨fun r hr => ?_, ?_⟩
    · -- a float is written with a point or an exponent
      simp only [reading, before_float, List.mem_singleton] at hr
      subst hr
      simp only [valueOn, scalar?, htrim, Option.map_eq_none_iff]
      rcases Binary64.point_or_e_mem_toText hx with h | h
      · exact Int128.read?_eq_none_of_mem h (by decide)
      · exact Int128.read?_eq_none_of_mem h (by decide)
    · simp only [valueOn, scalar?, reading, htrim, Binary64.read?_toText hx]
      simp [hx]
  | boolean b =>
    refine ⟨fun r hr => ?_, ?_⟩
    · -- `true` and `false` are spelled with letters no number uses
      simp only [reading, before_boolean, List.mem_cons, List.not_mem_nil, or_false] at hr
      rcases hr with rfl | rfl <;> cases b <;> rfl
    · cases b <;> rfl
  | uuid u =>
    rw [show (uuid u).toText = u.toText from rfl]
    have htrim := Text.trimChars_eq_self_of_forall (Uuid.noBlank_toText u)
    have hcount := Uuid.count_hyphen_toText u
    have h2 : 2 ≤ u.toText.toList.count '-' := by omega
    have h3 : 3 ≤ u.toText.toList.count '-' := by omega
    have hmem : '-' ∈ u.toText.toList := List.count_pos_iff.mp (by omega)
    refine ⟨fun r hr => ?_, ?_⟩
    · -- a UUID holds four hyphens
      simp only [reading, before_uuid, List.mem_cons, List.not_mem_nil, or_false] at hr
      rcases hr with rfl | rfl | rfl
      · simp [valueOn, scalar?, htrim, Int128.read?_eq_none_of_count h2]
      · simp [valueOn, scalar?, htrim, Binary64.read?, DecimalLiteral.read?_eq_none_of_count h3]
      · simp [valueOn, scalar?, htrim, boolean?_eq_none_of_mem hmem (by decide)]
    · simp only [valueOn, scalar?, reading, htrim, Uuid.read?_toText]
      rfl
  | duration d =>
    rw [show (duration d).toText = d.toText from rfl]
    refine ⟨fun r hr => ?_, ?_⟩
    · -- a duration holds a colon and starts with a digit or its minus sign
      simp only [reading, before_duration] at hr
      refine valueOn_eq_none_of_colon (Duration.noBlank_toText d) (Duration.colon_mem_toText d)
        (fun c hc => ?_) hr
      rcases Duration.head_toText d c hc with h | h
      · exact .inl h
      · exact .inr (.inl h)
    · simp only [valueOn, scalar?, reading, Duration.read?_toText]
      rfl
  | timestamp t =>
    rw [show (timestamp t).toText = t.toText from rfl]
    refine ⟨fun r hr => ?_, ?_⟩
    · -- a timestamp holds a colon, and its year is no hour
      simp only [reading, before_timestamp] at hr
      rw [show [Reading.integer, .float, .boolean, .uuid, .duration] =
        [.integer, .float, .boolean, .uuid] ++ [.duration] from rfl, List.mem_append,
        List.mem_singleton] at hr
      rcases hr with hr | rfl
      · exact valueOn_eq_none_of_colon (Timestamp.noBlank_toText t)
          (Timestamp.colon_mem_toText t) (Timestamp.head_toText t) hr
      · simp only [valueOn, scalar?, Timestamp.duration_read?_toText]
        rfl
    · simp only [valueOn, scalar?, reading, Timestamp.read?_toText hv]
      rfl
  | text s => cases hv
  | array items => cases hv

/-- The text of a scalar that reads back is read as the scalar. -/
theorem read_toText {v : Value} (hv : v.ReadsBack) : read v.toText = v :=
  read_eq_of_firstAccepts (firstAccepts_toText hv)

end Value

end RecordQuery
