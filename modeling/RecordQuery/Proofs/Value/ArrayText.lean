import RecordQuery.Proofs.Value.Scalar

/-!
# Splitting written arrays

An array is written `[i1,i2,…]`: a scalar item with its commas escaped, a nested array as
it is. Splitting the interior gives back the texts of the items when no item text can be
mistaken for the syntax around it: written scalars hold none of the reserved characters
(`Value.not_mem_reservedChars_toText`), and a text item must hold no bracket and must not end
in a backslash (`Value.ItemText`). Under these conditions the splitter keeps every nested
array verbatim, since inside brackets it keeps every character, and unescapes the commas of
the outer items (`Elements.elements?_toText_array`). For texts alone, escaping and joining
with commas is undone by splitting (`Elements.split_intercalate_escapeCommas`).
-/

namespace RecordQuery

open Text

namespace Value

/-- The characters that no written scalar holds: the brackets and the backslash, which
arrays are written with, and the star and the equals sign, which operators put before a
value. -/
def reservedChars : List Char := ['[', ']', '\\', '*', '=']

/-- A character outside a class that holds no reserved character is not reserved. -/
theorem not_mem_reservedChars_of {p : Char → Prop}
    (hp : ∀ c ∈ reservedChars, ¬ p c) {c : Char} (hc : p c) : c ∉ reservedChars :=
  fun h => hp c h hc

theorem not_mem_reservedChars_of_isDigit {c : Char} (h : Decimal.isDigit c = true) :
    c ∉ reservedChars :=
  @not_mem_reservedChars_of (fun c => Decimal.isDigit c = true)
    (by simp [reservedChars, Decimal.isDigit]) c h

end Value

open Value

theorem Int128.not_mem_reservedChars_toText (n : Int128) :
    ∀ c ∈ n.toText.toList, c ∉ reservedChars := by
  intro c hc
  rcases (signedDigits_of_read? (read?_toText n)).mem c hc with h | rfl | rfl
  · exact not_mem_reservedChars_of_isDigit h
  all_goals decide

theorem Binary64.not_mem_reservedChars_toText {x : Binary64} (hx : x.isFinite = true) :
    ∀ c ∈ x.toText.toList, c ∉ reservedChars := by
  obtain ⟨l, hl, -⟩ := Option.map_eq_some_iff.mp (read?_toText hx)
  intro c hc
  exact @not_mem_reservedChars_of
    (fun c => DecimalLiteral.isLiteralChar (DecimalLiteral.lowerAscii c) = true)
    (by simp [reservedChars]; decide) c ((DecimalLiteral.chars_of_read? hl).1 c hc)

theorem Uuid.not_mem_reservedChars_toText (u : Uuid) :
    ∀ c ∈ u.toText.toList, c ∉ reservedChars := by
  have hdigit : ∀ m : Fin 16, Uuid.hexDigit m ∉ reservedChars := by decide
  intro c hc
  rcases mem_toText hc with hc | rfl
  · obtain ⟨i, -, rfl⟩ := List.mem_map.mp hc
    exact hdigit ⟨_, Nat.mod_lt _ (by decide)⟩
  · decide

theorem Duration.not_mem_reservedChars_toText (d : Duration) :
    ∀ c ∈ d.toText.toList, c ∉ reservedChars := by
  intro c hc
  rcases mem_toText hc with h | rfl | rfl | rfl
  · exact not_mem_reservedChars_of_isDigit h
  all_goals decide

theorem Timestamp.not_mem_reservedChars_toText (t : Timestamp) :
    ∀ c ∈ t.toText.toList, c ∉ reservedChars := by
  intro c hc
  rcases mem_toText hc with h | rfl | rfl | rfl | rfl | rfl
  · exact not_mem_reservedChars_of_isDigit h
  all_goals decide

namespace Elements

/-- Inside a nested bracket every character but a bracket is kept as written; an escaped
comma there is kept with its backslash, which is the same as keeping both one by one. -/
theorem splitAux_cons_of_pos {d : Nat} (hd : 0 < d) {c : Char} (hc : c ≠ '[' ∧ c ≠ ']')
    (cur r : List Char) : splitAux d cur (c :: r) = splitAux d (c :: cur) r := by
  obtain ⟨d, rfl⟩ : ∃ d', d = d' + 1 := ⟨d - 1, by omega⟩
  by_cases hesc : c = '\\' ∧ r.head? = some ','
  · obtain ⟨rfl, hr⟩ := hesc
    obtain ⟨r, rfl⟩ : ∃ r', r = ',' :: r' := by
      cases r with
      | nil => cases hr
      | cons c' r => cases hr; exact ⟨r, rfl⟩
    rw [splitAux.eq_2, if_pos (Nat.succ_pos d),
      splitAux.eq_6 _ _ _ _ (by simp) (by decide) (by decide) (by simp)]
  · rw [splitAux.eq_6 _ _ _ _ (fun r' h1 h2 => hesc ⟨h1, by simp [h2]⟩) hc.1 hc.2 (by simp)]

/-- Outside every bracket, a character that is neither a bracket nor a comma, and not a
backslash escaping the next comma, joins the current element. -/
theorem splitAux_cons_zero {c : Char} (hc : c ≠ '[' ∧ c ≠ ']' ∧ c ≠ ',')
    {r : List Char} (hr : c = '\\' → r.head? ≠ some ',') (cur : List Char) :
    splitAux 0 cur (c :: r) = splitAux 0 (c :: cur) r :=
  splitAux.eq_6 _ _ _ _ (fun r' h1 h2 => hr h1 (by simp [h2])) hc.1 hc.2.1 (fun _ h => hc.2.2 h)

/-- Inside a nested bracket a text without brackets is kept as written. -/
theorem splitAux_plain_of_pos {d : Nat} (hd : 0 < d) {s : List Char}
    (hs : ∀ c ∈ s, c ≠ '[' ∧ c ≠ ']') (cur rest : List Char) :
    splitAux d cur (s ++ rest) = splitAux d (s.reverse ++ cur) rest := by
  induction s generalizing cur with
  | nil => rfl
  | cons c s ih =>
    rw [List.cons_append, splitAux_cons_of_pos hd (hs c List.mem_cons_self),
      ih (fun c' hc' => hs c' (List.mem_cons_of_mem _ hc'))]
    simp

end Elements

namespace Value

/-- A text that an array can hold as an item and give back as it was: it is not empty and is
its own trim, holds no bracket, and does not end in a backslash, which would escape the
comma after it. -/
structure ItemText (s : String) : Prop where
  ne_nil : s.toList ≠ []
  trimmed : EndsNotBlank s.toList
  no_bracket : ∀ c ∈ s.toList, c ≠ '[' ∧ c ≠ ']'
  last : s.toList.getLast? ≠ some '\\'

mutual

/-- A value that an array can hold as an item and give back. -/
def ItemWritable : Value → Prop
  | .text s => ItemText s
  | .array items => ItemsWritable items
  | v => v.ReadsBack

/-- Values that an array can hold as its items and give back. -/
def ItemsWritable : List Value → Prop
  | [] => True
  | v :: vs => ItemWritable v ∧ ItemsWritable vs

end

theorem itemsWritable_cons {v : Value} {vs : List Value} :
    ItemsWritable (v :: vs) ↔ ItemWritable v ∧ ItemsWritable vs := by
  rw [ItemsWritable]

theorem itemWritable_array {items : List Value} :
    ItemWritable (.array items) ↔ ItemsWritable items := by
  rw [ItemWritable]

theorem itemsText_singleton (v : Value) : itemsText [v] = itemText v := by
  rw [itemsText]

theorem itemsText_cons_cons (v w : Value) (rest : List Value) :
    itemsText (v :: w :: rest) = itemText v ++ "," ++ itemsText (w :: rest) := by
  rw [itemsText]
  simp

theorem itemText_array (inner : List Value) :
    itemText (.array inner) = "[" ++ itemsText inner ++ "]" := by
  rw [itemText]

theorem isArray_eq_true_iff {w : Value} : w.isArray = true ↔ ∃ items, w = .array items := by
  cases w <;> simp [isArray]

theorem itemText_of_isArray {w : Value} (hw : w.isArray = false) :
    itemText w = escapeCommas w.scalarText := by
  cases w with
  | array _ => cases hw
  | _ => rfl

theorem toText_of_isArray {w : Value} (hw : w.isArray = false) : w.toText = w.scalarText := by
  cases w with
  | array _ => cases hw
  | _ => rfl

theorem not_mem_reservedChars_toText {v : Value} (hv : v.ReadsBack) :
    ∀ c ∈ v.toText.toList, c ∉ reservedChars := by
  cases v with
  | integer n => exact n.not_mem_reservedChars_toText
  | float x => exact Binary64.not_mem_reservedChars_toText hv
  | boolean b => cases b <;> simp [toText, scalarText, boolText, reservedChars]
  | uuid u => exact u.not_mem_reservedChars_toText
  | duration d => exact d.not_mem_reservedChars_toText
  | timestamp t => exact t.not_mem_reservedChars_toText
  | text _ | array _ => exact hv.elim

/-- A text without reserved characters holds no bracket and does not end in a backslash. -/
theorem noBracket_of_not_mem_reservedChars {cs : List Char}
    (h : ∀ c ∈ cs, c ∉ reservedChars) :
    (∀ c ∈ cs, c ≠ '[' ∧ c ≠ ']') ∧ cs.getLast? ≠ some '\\' := by
  refine ⟨fun c hc => ⟨?_, ?_⟩,
    fun hlast => h _ (List.mem_of_getLast? hlast) (by simp [reservedChars])⟩
  all_goals
    rintro rfl
    exact h _ hc (by simp [reservedChars])

theorem ItemWritable.readsBack {w : Value} (h : w.ItemWritable) (hw : w.isArray = false)
    (ht : w.isText = false) : w.ReadsBack := by
  cases w with
  | text _ => cases ht
  | array _ => cases hw
  | _ => exact h

/-- The scalar text of an item that is not an array holds no bracket and does not end in a
backslash. -/
theorem ItemWritable.scalarText {w : Value} (h : w.ItemWritable) (hw : w.isArray = false) :
    (∀ c ∈ w.scalarText.toList, c ≠ '[' ∧ c ≠ ']') ∧
      w.scalarText.toList.getLast? ≠ some '\\' := by
  cases w with
  | text s =>
    rw [ItemWritable] at h
    exact ⟨h.no_bracket, h.last⟩
  | array _ => cases hw
  | _ =>
    rw [← toText_of_isArray hw]
    exact noBracket_of_not_mem_reservedChars (not_mem_reservedChars_toText (h.readsBack hw rfl))

/-- The text of a scalar that reads back is not empty: no reading accepts the empty text. -/
theorem toText_ne_nil {v : Value} (hv : v.ReadsBack) : v.toText.toList ≠ [] := by
  intro hnil
  have h := (firstAccepts_toText hv).accepts
  rw [hnil] at h
  cases v with
  | text _ | array _ => exact hv.elim
  | _ => cases h

/-- An item's own text is not empty and is its own trim. -/
theorem ItemWritable.toText {w : Value} (h : w.ItemWritable) :
    w.toText.toList ≠ [] ∧ EndsNotBlank w.toText.toList := by
  cases w with
  | text s =>
    rw [ItemWritable] at h
    exact ⟨h.ne_nil, h.trimmed⟩
  | array items =>
    refine ⟨?_, endsNotBlank_toText (fun s => by simp)⟩
    simp [Value.toText]
  | _ => exact ⟨toText_ne_nil h, endsNotBlank_toText (fun s => by simp)⟩

end Value

namespace Elements

open Value

/-- An escaped text without brackets that does not end in a backslash is kept whole at the
outer level, each escaped comma standing for a plain one. -/
theorem splitAux_escape_zero {s : List Char} (hs : ∀ c ∈ s, c ≠ '[' ∧ c ≠ ']')
    (hlast : s.getLast? ≠ some '\\') (cur rest : List Char) :
    splitAux 0 cur ((s.flatMap fun c => if c = ',' then ['\\', ','] else [c]) ++ rest) =
      splitAux 0 (s.reverse ++ cur) rest := by
  induction s generalizing cur with
  | nil => rfl
  | cons c s ih =>
    have hs' : ∀ c ∈ s, c ≠ '[' ∧ c ≠ ']' :=
      fun c' hc' => hs c' (List.mem_cons_of_mem _ hc')
    have hlast' : s.getLast? ≠ some '\\' := by
      cases s with
      | nil => simp
      | cons c' s => rwa [List.getLast?_cons_cons] at hlast
    rw [List.flatMap_cons, List.append_assoc]
    by_cases hcomma : c = ','
    · subst hcomma
      rw [if_pos rfl, List.cons_append, List.cons_append, List.nil_append, splitAux.eq_2,
        if_neg (lt_irrefl 0), ih hs' hlast']
      simp
    · have hc := hs c List.mem_cons_self
      rw [if_neg hcomma, List.singleton_append, splitAux_cons_zero ⟨hc.1, hc.2, hcomma⟩ ?_,
        ih hs' hlast']
      · simp
      -- a backslash is followed by more of the text, whose escaped form starts with no bare comma
      rintro rfl
      cases s with
      | nil => exact absurd rfl hlast
      | cons c' s => by_cases hc' : c' = ',' <;> simp [hc']

/-- Outside every bracket an escaped text is unescaped. -/
theorem splitAux_escapeCommas_zero {s : String} (hs : ∀ c ∈ s.toList, c ≠ '[' ∧ c ≠ ']')
    (hlast : s.toList.getLast? ≠ some '\\') (cur rest : List Char) :
    splitAux 0 cur ((escapeCommas s).toList ++ rest) =
      splitAux 0 (s.toList.reverse ++ cur) rest := by
  rw [escapeCommas, String.toList_ofList]
  exact splitAux_escape_zero hs hlast cur rest

/-- Escaped texts joined by commas split, outside every bracket, into the texts themselves,
when none holds a bracket or ends in a backslash. -/
theorem splitAux_intercalate_escapeCommas (cur : List Char) :
    ∀ (e : String) (es : List String),
      (∀ x ∈ e :: es, (∀ c ∈ x.toList, c ≠ '[' ∧ c ≠ ']') ∧ x.toList.getLast? ≠ some '\\') →
      splitAux 0 cur ([','].intercalate ((e :: es).map fun x => (escapeCommas x).toList)) =
        (cur.reverse ++ e.toList) :: es.map String.toList
  | e, [], h => by
    obtain ⟨hbr, hlast⟩ := h e List.mem_cons_self
    rw [List.map_singleton, List.intercalate_singleton, ← List.append_nil (escapeCommas e).toList,
      splitAux_escapeCommas_zero hbr hlast, splitAux.eq_1]
    simp
  | e, e' :: es, h => by
    obtain ⟨hbr, hlast⟩ := h e List.mem_cons_self
    -- the comma after the first text is bare, so the first element ends there
    have hrest := splitAux_intercalate_escapeCommas [] e' es
      fun x hx => h x (List.mem_cons_of_mem e hx)
    rw [List.map_cons] at hrest
    rw [List.map_cons, List.map_cons, List.intercalate_cons_cons, List.append_assoc,
      splitAux_escapeCommas_zero hbr hlast, List.singleton_append, splitAux.eq_5, hrest]
    simp

/-- Splitting undoes writing texts as the items of an array: escaping their commas and joining
them with commas. A text must hold no bracket and must not end in a backslash, and there must be
at least one, since an empty interior splits into one empty element. -/
theorem split_intercalate_escapeCommas {es : List String} (hne : es ≠ [])
    (hes : ∀ e ∈ es, (∀ c ∈ e.toList, c ≠ '[' ∧ c ≠ ']') ∧ e.toList.getLast? ≠ some '\\') :
    split (",".intercalate (es.map escapeCommas)).toList = es.map String.toList := by
  obtain ⟨e, es, rfl⟩ := List.exists_cons_of_ne_nil hne
  rw [String.toList_intercalate, List.map_map, split]
  exact splitAux_intercalate_escapeCommas [] e es hes

/-- Texts with commas, with a backslash before a comma, and an empty text come back apart. -/
theorem split_intercalate_escapeCommas_commaTexts :
    ["test1", "test,with,comma", "a\\,b", ""] ≠ [] ∧
      (∀ e ∈ ["test1", "test,with,comma", "a\\,b", ""],
        (∀ c ∈ e.toList, c ≠ '[' ∧ c ≠ ']') ∧ e.toList.getLast? ≠ some '\\') ∧
      split (",".intercalate (["test1", "test,with,comma", "a\\,b", ""].map escapeCommas)).toList =
        ["test1", "test,with,comma", "a\\,b", ""].map String.toList := by
  have hne : ["test1", "test,with,comma", "a\\,b", ""] ≠ [] := by simp
  have hes : ∀ e ∈ ["test1", "test,with,comma", "a\\,b", ""],
      (∀ c ∈ e.toList, c ≠ '[' ∧ c ≠ ']') ∧ e.toList.getLast? ≠ some '\\' := by simp
  exact ⟨hne, hes, split_intercalate_escapeCommas hne hes⟩

/-- Inside a nested bracket an escaped text keeps its escapes. -/
theorem splitAux_escapeCommas_of_pos {d : Nat} (hd : 0 < d) {s : String}
    (hs : ∀ c ∈ s.toList, c ≠ '[' ∧ c ≠ ']') (cur rest : List Char) :
    splitAux d cur ((escapeCommas s).toList ++ rest) =
      splitAux d ((escapeCommas s).toList.reverse ++ cur) rest := by
  refine splitAux_plain_of_pos hd (fun c hc => ?_) cur rest
  rw [escapeCommas, String.toList_ofList, List.mem_flatMap] at hc
  obtain ⟨c', hc', hc⟩ := hc
  split at hc
  · simp only [List.mem_cons, List.not_mem_nil, or_false] at hc
    rcases hc with rfl | rfl <;> decide
  · rw [List.mem_singleton] at hc
    exact hc ▸ hs c' hc'

mutual

/-- Inside a nested bracket the text of an item is kept as written. -/
theorem splitAux_itemText_of_pos {d : Nat} (hd : 0 < d) :
    ∀ (w : Value), w.ItemWritable → ∀ cur rest,
      splitAux d cur ((itemText w).toList ++ rest) =
        splitAux d ((itemText w).toList.reverse ++ cur) rest
  | .array inner, h, cur, rest => by
    rw [itemText_array]
    simp only [String.toList_append, List.append_assoc, List.reverse_append]
    rw [show "[".toList = ['['] from rfl, show "]".toList = [']'] from rfl, List.singleton_append,
      splitAux.eq_3, splitAux_itemsText_of_pos (Nat.succ_pos d) inner (itemWritable_array.mp h),
      List.singleton_append, splitAux.eq_4]
    simp
  | .text s, h, cur, rest => splitAux_escapeCommas_of_pos hd (h.scalarText rfl).1 cur rest
  | .integer _, h, cur, rest => splitAux_escapeCommas_of_pos hd (h.scalarText rfl).1 cur rest
  | .float _, h, cur, rest => splitAux_escapeCommas_of_pos hd (h.scalarText rfl).1 cur rest
  | .boolean _, h, cur, rest => splitAux_escapeCommas_of_pos hd (h.scalarText rfl).1 cur rest
  | .uuid _, h, cur, rest => splitAux_escapeCommas_of_pos hd (h.scalarText rfl).1 cur rest
  | .duration _, h, cur, rest => splitAux_escapeCommas_of_pos hd (h.scalarText rfl).1 cur rest
  | .timestamp _, h, cur, rest => splitAux_escapeCommas_of_pos hd (h.scalarText rfl).1 cur rest

/-- Inside a nested bracket the items of an array are kept as written, commas included. -/
theorem splitAux_itemsText_of_pos {d : Nat} (hd : 0 < d) :
    ∀ (items : List Value), ItemsWritable items → ∀ cur rest,
      splitAux d cur ((itemsText items).toList ++ rest) =
        splitAux d ((itemsText items).toList.reverse ++ cur) rest
  | [], _, cur, rest => by simp [itemsText]
  | [w], h, cur, rest => by
    rw [itemsText_singleton]
    exact splitAux_itemText_of_pos hd w (itemsWritable_cons.mp h).1 cur rest
  | w :: w' :: ws, h, cur, rest => by
    rw [itemsText_cons_cons]
    simp only [String.toList_append, List.append_assoc, List.reverse_append]
    rw [splitAux_itemText_of_pos hd w (itemsWritable_cons.mp h).1,
      show ",".toList = [','] from rfl, List.singleton_append,
      splitAux_cons_of_pos hd (by decide),
      splitAux_itemsText_of_pos hd (w' :: ws) (itemsWritable_cons.mp h).2]
    simp

end

/-- Outside every bracket an item is kept whole, as the text of the value it holds. -/
theorem splitAux_itemText_zero {w : Value} (h : w.ItemWritable) (cur rest : List Char) :
    splitAux 0 cur ((itemText w).toList ++ rest) =
      splitAux 0 (w.toText.toList.reverse ++ cur) rest := by
  cases hw : w.isArray
  · rw [itemText_of_isArray hw, toText_of_isArray hw]
    exact splitAux_escapeCommas_zero (h.scalarText hw).1 (h.scalarText hw).2 cur rest
  · obtain ⟨inner, rfl⟩ := isArray_eq_true_iff.mp hw
    rw [itemText_array, Value.toText]
    simp only [String.toList_append, List.append_assoc, List.reverse_append]
    rw [show "[".toList = ['['] from rfl, show "]".toList = [']'] from rfl, List.singleton_append,
      splitAux.eq_3, splitAux_itemsText_of_pos Nat.one_pos inner (itemWritable_array.mp h),
      List.singleton_append, splitAux.eq_4]
    simp

/-- The items of an array are split apart, each as the text of the value it holds. -/
theorem splitAux_itemsText_zero :
    ∀ (w : Value) (ws : List Value), ItemsWritable (w :: ws) → ∀ cur,
      splitAux 0 cur (itemsText (w :: ws)).toList =
        (cur.reverse ++ w.toText.toList) :: ws.map (·.toText.toList)
  | w, [], h, cur => by
    rw [itemsText_singleton, ← List.append_nil (itemText w).toList,
      splitAux_itemText_zero (itemsWritable_cons.mp h).1, splitAux.eq_1]
    simp
  | w, w' :: ws, h, cur => by
    rw [itemsText_cons_cons]
    simp only [String.toList_append, List.append_assoc]
    rw [splitAux_itemText_zero (itemsWritable_cons.mp h).1, show ",".toList = [','] from rfl,
      List.singleton_append, splitAux.eq_5,
      splitAux_itemsText_zero w' ws (itemsWritable_cons.mp h).2 []]
    simp

/-- A written array splits into the texts of its items. -/
theorem elements?_toText_array {items : List Value} (h : ItemsWritable items) :
    elements? (Value.array items).toText.toList = some (items.map (·.toText.toList)) := by
  have htrim : trimChars (Value.array items).toText.toList = (Value.array items).toText.toList :=
    trimChars_eq_self_iff.mpr (endsNotBlank_toText (fun s => by simp))
  have hchars :
      (Value.array items).toText.toList = '[' :: ((itemsText items).toList ++ [']']) := by
    simp [Value.toText]
  unfold elements?
  rw [htrim, hchars]
  have hlast : ('[' :: ((itemsText items).toList ++ [']'])).getLast? = some ']' := by
    rw [← List.cons_append, List.getLast?_concat]
  simp only [List.length_cons, List.length_append, List.head?_cons, hlast]
  simp only [Nat.reduceLeDiff, beq_self_eq_true, List.drop_succ_cons, List.drop_zero,
    List.dropLast_concat]
  cases items with
  | nil => simp [itemsText, split, splitAux, trimChars, trimEnd, trimStart]
  | cons w ws =>
    rw [split, splitAux_itemsText_zero w ws h []]
    cases ws with
    | nil =>
      have hw := (itemsWritable_cons.mp h).1.toText
      simp [trimChars_eq_self_iff.mpr hw.2, hw.1]
    | cons => simp

end Elements

end RecordQuery
