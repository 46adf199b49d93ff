import RecordQuery.Codec

/-!
# Splitting a filter text at its operator

A decoded filter text is split at the leftmost position where an operator token starts,
taking the longest token there. This file says when the split of `field ++ token ++ value`
falls exactly between the three parts.

No token may start inside the field, also not one that runs on into the token after it
(`findToken_append`); every token starts with one of `= ! < > [ ^ $`, so a field without
those characters is safe (`tokenAt_cons_of_not_mem`). At the token itself, the longest
match must be the token and not a longer one: only `=`, `>` and `<` are the beginning of
longer tokens (`=*`, `>=`, `<=`), so the value must not continue them
(`tokenAt_token_append`).

Conversely every split that `findToken` makes has these properties (`findToken_eq_some`).

Tokens are at most three characters long, so whether one starts at a position is decided by
the next three characters (`tokenAt_cons_cons_cons`), and `![]` is the only one of three
(`tokenAt_cons_cons`). So taking out characters between a field and its token starts no new
token inside the field, unless the field ends with `!` and the token is one that `!` joins
into a longer one (`tokenAt_dropped_eq_none`).
-/

namespace RecordQuery

namespace Codec

/-- The characters an operator token begins with. -/
def tokenStarts : List Char := ['=', '!', '<', '>', '[', '^', '$']

/-- The token of `op` followed by the character makes a longer token: `=*`, `>=` or `<=`. -/
def lengthens : FilterOperator → Char → Bool
  | .eq, c => c == '*'
  | .gt, c => c == '='
  | .lt, c => c == '='
  | _, _ => false

/-- The operators whose token, written right after `!`, makes a token start at the `!`:
`!=`, `![]`, `!^`, `!$`, and `!=*`, which begins with `!=`. -/
def joinsBang : FilterOperator → Bool
  | .eq | .has | .mem | .startsWith | .endsWith => true
  | _ => false

/-- The value does not make the token longer when it does not start with `*` after `=`, nor
with `=` after `>` or `<`. -/
theorem lengthens_eq_false {op : FilterOperator} {c : Char} (heq : op = .eq → c ≠ '*')
    (hcmp : op = .gt ∨ op = .lt → c ≠ '=') : lengthens op c = false := by
  cases op with
  | eq => simpa [lengthens] using heq rfl
  | gt => simpa [lengthens] using hcmp (.inl rfl)
  | lt => simpa [lengthens] using hcmp (.inr rfl)
  | _ => rfl

theorem token_toList_ne_nil (op : FilterOperator) : op.token.toList ≠ [] := by
  cases op <;> decide

/-- No token starts at a character that does not begin one. -/
theorem tokenAt_cons_of_not_mem {c : Char} (h : c ∉ tokenStarts) (rest : List Char) :
    tokenAt (c :: rest) = none := by
  simp only [tokenStarts, List.mem_cons, List.not_mem_nil, or_false, not_or] at h
  obtain ⟨h1, h2, h3, h4, h5, h6, h7⟩ := h
  simp [tokenAt, tokensByLength, FilterOperator.token, Ne.symm h1, Ne.symm h2, Ne.symm h3,
    Ne.symm h4, Ne.symm h5, Ne.symm h6, Ne.symm h7]

/-- A token is matched as itself unless the next character makes it longer. -/
theorem tokenAt_token_append (op : FilterOperator) (rest : List Char)
    (h : ∀ c ∈ rest.head?, lengthens op c = false) :
    tokenAt (op.token.toList ++ rest) = some op := by
  cases rest with
  | nil => cases op <;> decide
  | cons c r =>
    have hc : lengthens op c = false := h c rfl
    cases op <;> simp [tokenAt, tokensByLength, FilterOperator.token, List.isPrefixOf]
    -- left: `=`, `>` and `<` followed by a character that does not lengthen them
    all_goals simp only [lengthens, beq_eq_false_iff_ne] at hc; exact Ne.symm hc

/-- The token found at a position is written there. -/
theorem prefix_of_tokenAt {cs : List Char} {op : FilterOperator} (h : tokenAt cs = some op) :
    op.token.toList <+: cs := by
  have hp := List.find?_some h
  simpa using hp

/-- A text with no token starting inside `pre` is split where `rest` is. -/
theorem findToken_append {pre rest : List Char}
    (h : ∀ s, s ≠ [] → s <:+ pre → tokenAt (s ++ rest) = none) :
    findToken (pre ++ rest) = (findToken rest).map fun (a, op, b) => (pre ++ a, op, b) := by
  induction pre with
  | nil => simp
  | cons c pre ih =>
    have hc : tokenAt (c :: (pre ++ rest)) = none := h (c :: pre) (by simp) (List.suffix_refl _)
    rw [List.cons_append, findToken, hc]
    simp only
    rw [ih (fun s hs hsuf => h s hs (hsuf.trans (List.suffix_cons c pre))), Option.map_map]
    rfl

theorem findToken_of_tokenAt {cs : List Char} {op : FilterOperator} (hne : cs ≠ [])
    (h : tokenAt cs = some op) : findToken cs = some ([], op, cs.drop op.token.length) := by
  cases cs with
  | nil => exact absurd rfl hne
  | cons c rest => rw [findToken, h]

/-- The split of `field ++ token ++ value` when no token starts inside the field and the value
does not lengthen the token. -/
theorem findToken_field_token_value {field value : List Char} {op : FilterOperator}
    (hfield : ∀ s, s ≠ [] → s <:+ field → tokenAt (s ++ op.token.toList ++ value) = none)
    (hvalue : ∀ c ∈ value.head?, lengthens op c = false) :
    findToken (field ++ op.token.toList ++ value) = some (field, op, value) := by
  have hne : op.token.toList ++ value ≠ [] := by simp [token_toList_ne_nil op]
  rw [List.append_assoc, findToken_append (fun s hs hsuf => by
      rw [← List.append_assoc]
      exact hfield s hs hsuf),
    findToken_of_tokenAt hne (tokenAt_token_append op value hvalue)]
  simp [← String.length_toList]

/-- A field without the characters that begin tokens has no token starting inside it. -/
theorem tokenAt_suffix_eq_none {field : List Char} (h : ∀ c ∈ field, c ∉ tokenStarts)
    {s : List Char} (hs : s ≠ []) (hsuf : s <:+ field) (rest : List Char) :
    tokenAt (s ++ rest) = none := by
  cases s with
  | nil => exact absurd rfl hs
  | cons c s => exact tokenAt_cons_of_not_mem (h c (hsuf.subset List.mem_cons_self)) _

/-- What every split found by `findToken` satisfies: the text is the three parts, the token is
the one matched at its position, and no token starts inside the part before it. -/
theorem findToken_eq_some {cs pre post : List Char} {op : FilterOperator}
    (h : findToken cs = some (pre, op, post)) :
    cs = pre ++ op.token.toList ++ post ∧ tokenAt (op.token.toList ++ post) = some op ∧
      ∀ s, s ≠ [] → s <:+ pre → tokenAt (s ++ op.token.toList ++ post) = none := by
  induction cs generalizing pre with
  | nil => cases h
  | cons c rest ih =>
    rw [findToken] at h
    split at h
    · -- a token starts here: nothing comes before it
      rename_i op' hop
      cases h
      obtain ⟨t, ht⟩ := prefix_of_tokenAt hop
      have hdrop : (c :: rest).drop op.token.length = t := by
        rw [← ht, ← String.length_toList, List.drop_left]
      rw [hdrop]
      refine ⟨ht.symm, by rw [ht]; exact hop, ?_⟩
      intro s hs hsuf
      exact absurd (List.eq_nil_of_suffix_nil hsuf) hs
    · -- no token here: the split is the one of the rest, with `c` in front
      rename_i hnone
      obtain ⟨⟨pre', op', post'⟩, hrest, hpre⟩ := Option.map_eq_some_iff.mp h
      cases hpre
      obtain ⟨hcs, htok, hsuf⟩ := ih hrest
      refine ⟨by rw [hcs]; rfl, htok, ?_⟩
      intro s hs hs'
      rcases List.suffix_cons_iff.mp hs' with rfl | hs'
      · rw [List.cons_append, List.cons_append, ← hcs]
        exact hnone
      · exact hsuf s hs hs'

theorem tokenAt_ne_none_of_prefix (op : FilterOperator) {cs : List Char}
    (h : op.token.toList <+: cs) : tokenAt cs ≠ none := by
  rw [tokenAt, ne_eq, List.find?_eq_none]
  intro hnone
  exact hnone op (by cases op <;> decide) (List.isPrefixOf_iff_prefix.mpr h)

/-- A character at which no token starts is none of the one-character tokens. -/
theorem ne_of_tokenAt_cons_eq_none {x : Char} {r : List Char} (h : tokenAt (x :: r) = none) :
    x ≠ '=' ∧ x ≠ '>' ∧ x ≠ '<' ∧ x ≠ '^' ∧ x ≠ '$' := by
  refine ⟨?_, ?_, ?_, ?_, ?_⟩ <;> rintro rfl
  · exact tokenAt_ne_none_of_prefix .eq ⟨r, rfl⟩ h
  · exact tokenAt_ne_none_of_prefix .gt ⟨r, rfl⟩ h
  · exact tokenAt_ne_none_of_prefix .lt ⟨r, rfl⟩ h
  · exact tokenAt_ne_none_of_prefix .startsWith ⟨r, rfl⟩ h
  · exact tokenAt_ne_none_of_prefix .endsWith ⟨r, rfl⟩ h

/-- Tokens are at most three characters long: the token at a position is decided by the
next three characters. -/
theorem tokenAt_cons_cons_cons (a b c : Char) (r r' : List Char) :
    tokenAt (a :: b :: c :: r) = tokenAt (a :: b :: c :: r') := by
  unfold tokenAt
  congr 1
  funext op
  cases op <;> rfl

/-- The only three-character token is `![]`: after two characters, only whether a `]` comes
next can matter. -/
theorem tokenAt_cons_cons {a b : Char} {r r' : List Char} (hr : r.head? ≠ some ']')
    (hr' : r'.head? ≠ some ']') : tokenAt (a :: b :: r) = tokenAt (a :: b :: r') := by
  unfold tokenAt
  congr 1
  funext op
  cases op with
  | notMem =>
    have hfalse : ∀ l : List Char, l.head? ≠ some ']' →
        FilterOperator.notMem.token.toList.isPrefixOf (a :: b :: l) = false := by
      intro l hl
      cases l with
      | nil => simp [FilterOperator.token, List.isPrefixOf]
      | cons c l =>
        simp only [List.head?_cons, ne_eq, Option.some.injEq] at hl
        simp [FilterOperator.token, List.isPrefixOf, Ne.symm hl]
    exact (hfalse r hr).trans (hfalse r' hr').symm
  | _ => rfl

/-- After `!`, the token of an operator that does not join it starts no token. -/
theorem tokenAt_bang_token_append {op : FilterOperator} (h : joinsBang op = false)
    (r : List Char) : tokenAt ('!' :: (op.token.toList ++ r)) = none := by
  cases op <;> simp_all [joinsBang, tokenAt, tokensByLength, FilterOperator.token, List.isPrefixOf]

/-- No token starts at `[` before another token: `[]` is the only one, and no token starts
with `]`. -/
theorem tokenAt_bracket_token_append (op : FilterOperator) (r : List Char) :
    tokenAt ('[' :: (op.token.toList ++ r)) = none := by
  cases op <;> simp [tokenAt, tokensByLength, FilterOperator.token, List.isPrefixOf]

theorem head?_token_ne (op : FilterOperator) : op.token.toList.head? ≠ some ']' := by
  cases op <;> decide

theorem head?_token_append_ne (op : FilterOperator) (r : List Char) :
    (op.token.toList ++ r).head? ≠ some ']' := by
  have h := head?_token_ne op
  obtain ⟨c, cs, hc⟩ := List.exists_cons_of_ne_nil (token_toList_ne_nil op)
  rw [hc] at h ⊢
  exact h

/-- Dropping the characters between a field and the token after it starts no new token inside
the field, if they do not begin with `]` and the field does not end with a `!` that the token
joins. -/
theorem tokenAt_dropped_eq_none {field trail post post' : List Char} {op : FilterOperator}
    (h : ∀ s, s ≠ [] → s <:+ field ++ trail → tokenAt (s ++ op.token.toList ++ post) = none)
    (htrail : trail.head? ≠ some ']') (hbang : field.getLast? = some '!' → joinsBang op = false) :
    ∀ s, s ≠ [] → s <:+ field → tokenAt (s ++ op.token.toList ++ post') = none := by
  intro s hs hsuf
  have hs' : tokenAt (s ++ (trail ++ (op.token.toList ++ post))) = none := by
    have hsuf' : s ++ trail <:+ field ++ trail := by
      obtain ⟨t, rfl⟩ := hsuf
      exact ⟨t, by simp⟩
    simpa [List.append_assoc] using h (s ++ trail) (by simp [hs]) hsuf'
  have hnext : (trail ++ (op.token.toList ++ post)).head? ≠ some ']' := by
    cases trail with
    | nil => exact head?_token_append_ne op post
    | cons b t => exact htrail
  simp only [List.append_assoc]
  -- a token is at most three characters long, so only a short `s` can meet what follows it
  match s, hs', hsuf with
  | [x], hx, hsuf =>
    obtain ⟨h1, h2, h3, h4, h5⟩ := ne_of_tokenAt_cons_eq_none hx
    rw [List.singleton_append]
    by_cases hxb : x = '!'
    · subst hxb
      have hlast : field.getLast? = some '!' := by
        obtain ⟨t, rfl⟩ := hsuf
        simp
      exact tokenAt_bang_token_append (hbang hlast) post'
    · by_cases hxk : x = '['
      · subst hxk
        exact tokenAt_bracket_token_append op post'
      · exact tokenAt_cons_of_not_mem (by simp [tokenStarts, *]) _
  | [y, x], hyx, _ =>
    rw [List.cons_append, List.singleton_append,
      tokenAt_cons_cons (head?_token_append_ne op post') hnext]
    simpa using hyx
  | a :: b :: c :: r, habc, _ =>
    simp only [List.cons_append] at habc ⊢
    rw [tokenAt_cons_cons_cons a b c _ (r ++ (trail ++ (op.token.toList ++ post)))]
    exact habc

end Codec

end RecordQuery
