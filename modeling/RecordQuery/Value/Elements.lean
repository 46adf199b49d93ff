import RecordQuery.Text.Chars

/-!
# Array elements in text

An array is written `[e1,e2,…]`. The interior between the outer brackets is split at the
commas that stand outside every nested bracket. A backslash before a comma escapes it: at
the outer level the pair stands for a plain comma, inside nested brackets it is kept as
written so that the nested array can be split in its turn. A closing bracket without an
opening one is an ordinary character. An interior that is blank holds no elements.

Every element is no longer than the text it came from (`length_lt_of_mem_elements?`), which
is what lets readers recurse into elements.
-/

namespace RecordQuery

namespace Elements

/-- Splits an interior. `depth` counts the open nested brackets and `cur` holds the current
element reversed. -/
def splitAux : Nat → List Char → List Char → List (List Char)
  | _, cur, [] => [cur.reverse]
  | d, cur, '\\' :: ',' :: rest =>
    splitAux d (if d > 0 then ',' :: '\\' :: cur else ',' :: cur) rest
  | d, cur, '[' :: rest => splitAux (d + 1) ('[' :: cur) rest
  | d, cur, ']' :: rest => splitAux (d - 1) (']' :: cur) rest
  | 0, cur, ',' :: rest => cur.reverse :: splitAux 0 [] rest
  | d, cur, c :: rest => splitAux d (c :: cur) rest

/-- Splits the interior of an array at its outer commas. -/
def split (interior : List Char) : List (List Char) := splitAux 0 [] interior

/-- The elements of a text that is an array: after trimming it must start with `[` and end
with `]`; a blank interior gives no elements. -/
def elements? (cs : List Char) : Option (List (List Char)) :=
  let t := Text.trimChars cs
  if 2 ≤ t.length && t.head? == some '[' && t.getLast? == some ']' then
    let parts := split (t.drop 1).dropLast
    match parts with
    | [p] => if (Text.trimChars p).isEmpty then some [] else some parts
    | _ => some parts
  else none

theorem length_le_of_mem_splitAux (d : Nat) (cur xs e : List Char)
    (h : e ∈ splitAux d cur xs) : e.length ≤ cur.length + xs.length := by
  induction d, cur, xs using splitAux.induct with
  | case1 d cur =>
    simp [splitAux] at h
    subst h
    simp
  | case2 d cur rest ih =>
    simp only [splitAux] at h
    have := ih h
    split at this <;> simp at this ⊢ <;> omega
  | case3 d cur rest ih =>
    simp only [splitAux] at h
    have := ih h
    simp at this ⊢
    omega
  | case4 d cur rest ih =>
    simp only [splitAux] at h
    have := ih h
    simp at this ⊢
    omega
  | case5 cur rest ih =>
    simp only [splitAux, List.mem_cons] at h
    rcases h with h | h
    · subst h; simp
    · have := ih h
      simp at this ⊢
      omega
  | case6 d cur c rest h1 h2 h3 h4 ih =>
    rw [splitAux] at h
    · have := ih h
      simp at this ⊢
      omega
    all_goals simp_all

theorem length_le_of_mem_split {interior e : List Char} (h : e ∈ split interior) :
    e.length ≤ interior.length := by
  have := length_le_of_mem_splitAux 0 [] interior e h
  simpa using this

theorem length_trimChars_le (cs : List Char) : (Text.trimChars cs).length ≤ cs.length := by
  simp only [Text.trimChars, Text.trimEnd, Text.trimStart, List.length_reverse]
  calc ((List.dropWhile Text.isBlank (List.dropWhile Text.isBlank cs).reverse)).length
      ≤ (List.dropWhile Text.isBlank cs).reverse.length := (List.dropWhile_suffix _).length_le
    _ = (List.dropWhile Text.isBlank cs).length := List.length_reverse
    _ ≤ cs.length := (List.dropWhile_suffix _).length_le

/-- Every element of an array text is shorter than the text. -/
theorem length_lt_of_mem_elements? {cs : List Char} {es : List (List Char)}
    (h : elements? cs = some es) {e : List Char} (he : e ∈ es) : e.length < cs.length := by
  unfold elements? at h
  dsimp only at h
  have ht := length_trimChars_le cs
  split at h
  · rename_i hc
    simp only [Bool.and_eq_true, decide_eq_true_eq] at hc
    have hlen : ((Text.trimChars cs).drop 1).dropLast.length < cs.length := by
      simp
      omega
    split at h
    · rename_i p hp
      split at h
      · cases h; simp at he
      · cases h
        have := length_le_of_mem_split he
        omega
    · cases h
      have := length_le_of_mem_split he
      omega
  · cases h

end Elements

end RecordQuery
