import RecordQuery.Proofs.Derive.Registry

/-!
# The constants of a derived registry

Besides the registry, deriving declares one constant per registered field, named the
screaming snake case of the field's name without its `r#`, and holding the field's query name
(`Derive.expand_constants`). Query names are checked to be distinct; constant names are not.

Screaming snake case keeps apart the names it is meant for: on a name in snake case, with no
upper-case letter and no `-`, it upper-cases the ASCII letters and keeps every other character
(`Derive.screamingSnakeAux_of_snakeCase`), so distinct snake-case names get distinct constants
(`Derive.screamingSnake_inj`). A name with an upper-case letter can share its constant with a
snake-case one: `createdAt` and `created_at` both become `CREATED_AT`, and a struct with both
fields derives two constants of one name (`Derive.expand_constants_collide`).
-/

namespace RecordQuery

namespace Text

/-- The ASCII capitals are upper-case letters. -/
theorem isUpper_of_ascii {c : Char} (h₁ : 'A' ≤ c) (h₂ : c ≤ 'Z') : isUpper c = true := by
  have hlo : 65 ≤ c.toNat := h₁
  have hhi : c.toNat ≤ 90 := h₂
  have hrun : (⟨0x41, 0x5A, 1, 0⟩ : CaseRun).holds c.toNat = true := by
    simp only [CaseRun.holds, Nat.mod_one, beq_self_eq_true, Bool.and_true, Bool.and_eq_true,
      decide_eq_true_eq]
    exact ⟨hlo, hhi⟩
  -- the first run of upper-case letters is `A` to `Z`
  have hfirst : uppercaseRuns = ⟨0x41, 0x5A, 1, 0⟩ :: uppercaseRuns.tail := rfl
  rw [isUpper, hfirst, List.any_cons]
  exact Bool.or_eq_true_iff.mpr (.inl hrun)

end Text

namespace Derive

/-- A name in snake case: no upper-case letter and no `-`. The rename rules are written for
such names. -/
def SnakeCase (s : String) : Prop := ∀ c ∈ s.toList, Text.isUpper c = false ∧ c ≠ '-'

instance : DecidablePred SnakeCase := fun s =>
  decidable_of_iff (s.toList.all fun c => !Text.isUpper c && c != '-')
    (by simp [SnakeCase, List.all_eq_true])

/-- ASCII upper-casing moves the small letters 32 code points down and keeps the rest. -/
theorem toNat_asciiUpper (c : Char) :
    (asciiUpper c).toNat =
      if 97 ≤ c.toNat ∧ c.toNat ≤ 122 then c.toNat - 32 else c.toNat := by
  by_cases h : 97 ≤ c.toNat ∧ c.toNat ≤ 122
  · have hall : ∀ k, k < 26 → (asciiUpper (Char.ofNat (97 + k))).toNat = 65 + k := by decide
    have hk := hall (c.toNat - 97) (by omega)
    rw [Nat.add_sub_cancel' h.1, Char.ofNat_toNat] at hk
    rw [if_pos h, hk]
    omega
  · have hlow : ¬ (('a' ≤ c && c ≤ 'z') = true) := by
      intro hl
      simp only [Bool.and_eq_true, decide_eq_true_eq] at hl
      exact h ⟨hl.1, hl.2⟩
    rw [asciiUpper, if_neg hlow, if_neg h]

/-- A character that is not an upper-case letter is no ASCII capital. -/
theorem not_ascii_capital {c : Char} (h : Text.isUpper c = false) :
    ¬ (65 ≤ c.toNat ∧ c.toNat ≤ 90) :=
  fun ⟨h₁, h₂⟩ =>
    absurd (Text.isUpper_of_ascii (show 'A' ≤ c from h₁) h₂) (by simp [h])

/-- ASCII upper-casing tells apart the characters that are not upper-case letters. -/
theorem asciiUpper_inj {c c' : Char} (hc : Text.isUpper c = false) (hc' : Text.isUpper c' = false)
    (h : asciiUpper c = asciiUpper c') : c = c' := by
  have hnat := congrArg Char.toNat h
  have hcap := not_ascii_capital hc
  have hcap' := not_ascii_capital hc'
  rw [toNat_asciiUpper, toNat_asciiUpper] at hnat
  apply Char.toNat_inj.mp
  split at hnat <;> split at hnat <;> omega

/-- On a name in snake case, screaming snake case upper-cases the ASCII letters and keeps the
other characters. -/
theorem screamingSnakeAux_of_snakeCase (afterLower : Bool) {cs : List Char}
    (h : ∀ c ∈ cs, Text.isUpper c = false ∧ c ≠ '-') :
    screamingSnakeAux afterLower cs = cs.map asciiUpper := by
  induction cs generalizing afterLower with
  | nil => rfl
  | cons c cs ih =>
    obtain ⟨hup, hdash⟩ := h c List.mem_cons_self
    have hrest := fun b => ih b (fun x hx => h x (List.mem_cons_of_mem c hx))
    by_cases hu : c = '_'
    · subst hu
      simp [screamingSnakeAux, hup, hrest, asciiUpper]
    · simp [screamingSnakeAux, hup, hu, hdash, hrest]

/-- Upper-casing the ASCII letters tells apart lists of characters that are not upper-case
letters. -/
theorem map_asciiUpper_inj : ∀ {l l' : List Char}, (∀ c ∈ l, Text.isUpper c = false) →
    (∀ c ∈ l', Text.isUpper c = false) → l.map asciiUpper = l'.map asciiUpper → l = l'
  | [], [], _, _, _ => rfl
  | [], _ :: _, _, _, h => by simp at h
  | _ :: _, [], _, _, h => by simp at h
  | c :: l, c' :: l', hl, hl', h => by
    simp only [List.map_cons, List.cons.injEq] at h
    rw [asciiUpper_inj (hl c List.mem_cons_self) (hl' c' List.mem_cons_self) h.1,
      map_asciiUpper_inj (fun x hx => hl x (List.mem_cons_of_mem c hx))
        (fun x hx => hl' x (List.mem_cons_of_mem c' hx)) h.2]

/-- Distinct names in snake case have distinct screaming snake cases. -/
theorem screamingSnake_inj {s t : String} (hs : SnakeCase s) (ht : SnakeCase t)
    (h : screamingSnake s = screamingSnake t) : s = t := by
  unfold screamingSnake at h
  rw [screamingSnakeAux_of_snakeCase false hs, screamingSnakeAux_of_snakeCase false ht] at h
  have hmap := congrArg String.toList h
  simp only [String.toList_ofList] at hmap
  exact String.toList_inj.mp
    (map_asciiUpper_inj (fun c hc => (hs c hc).1) (fun c hc => (ht c hc).1) hmap)

/-! ### The constants of a registry -/

/-- The names of the constants of a registry, in the order of its fields. -/
def Expansion.constants (e : Expansion) : List String := e.fields.map (·.constant)

/-- A registered field's constant is named after the field's name without `r#`. -/
theorem constant_of_mem_registeredFields {rule : Option RenameRule} {fs : List FieldDecl}
    {rf : RegisteredField} (h : rf ∈ registeredFields rule fs) :
    rf.constant = screamingSnake (unraw rf.member) := by
  obtain ⟨f, -, hf⟩ := List.mem_filterMap.mp h
  obtain ⟨o, -, -, rfl⟩ := FieldDecl.eq_of_registered? hf
  rfl

/-- Deriving declares one constant per registered field, in declaration order, named the
screaming snake case of the field's name without `r#`. When the registered fields' names are
distinct and in snake case, the constants' names are distinct too. -/
theorem expand_constants (d : Declaration) (e : Expansion) (h : d.expand = .ok e) :
    (∃ fs rule, d.shape = .struct (.named fs) ∧ e.fields = registeredFields rule fs) ∧
    (∀ rf ∈ e.fields, rf.constant = screamingSnake (unraw rf.member)) ∧
    ((e.fields.map fun rf => unraw rf.member).Nodup →
      (∀ rf ∈ e.fields, SnakeCase (unraw rf.member)) → e.constants.Nodup) := by
  obtain ⟨fs, rule, hshape, -, -, -, he⟩ := expand_eq_ok_iff.mp h
  have hfields : e.fields = registeredFields rule fs := by rw [he]
  have hconst : ∀ rf ∈ e.fields, rf.constant = screamingSnake (unraw rf.member) :=
    fun rf hrf => constant_of_mem_registeredFields (hfields ▸ hrf)
  refine ⟨⟨fs, rule, hshape, hfields⟩, hconst, fun hnodup hsnake => ?_⟩
  have hnames : ∀ s ∈ e.fields.map (fun rf => unraw rf.member), SnakeCase s := by
    intro s hs
    obtain ⟨rf, hrf, rfl⟩ := List.mem_map.mp hs
    exact hsnake rf hrf
  -- the constants are the screaming snake cases of the names, which tell them apart
  have hmap : e.constants = (e.fields.map fun rf => unraw rf.member).map screamingSnake := by
    rw [List.map_map]
    exact List.map_congr_left hconst
  rw [hmap]
  exact hnodup.map_on fun a ha b hb hab => screamingSnake_inj (hnames a ha) (hnames b hb) hab

/-- `struct Entity { id: i64, created_at: String, r#type: u8 }`. -/
def snakeCaseDeclaration : Declaration :=
  ⟨[], "Entity", {}, .struct (.named [⟨[], some "id", [.ident "i64"]⟩,
    ⟨[], some "created_at", [.ident "String"]⟩, ⟨[], some "r#type", [.ident "u8"]⟩])⟩

/-- The fields of a struct named in snake case get distinct constants. -/
theorem expand_constants_snakeCase :
    ∃ e, snakeCaseDeclaration.expand = .ok e ∧ (e.fields.map fun rf => unraw rf.member).Nodup ∧
      (∀ rf ∈ e.fields, SnakeCase (unraw rf.member)) ∧ e.constants.Nodup := by
  obtain ⟨e, he, hv⟩ := Declaration.exists_expand_eq_ok
    (show snakeCaseDeclaration.expand.toOption.map (fun e => decide
      ((e.fields.map fun rf => unraw rf.member).Nodup ∧
        ∀ rf ∈ e.fields, SnakeCase (unraw rf.member))) = some true by decide +kernel)
  obtain ⟨hnodup, hsnake⟩ := of_decide_eq_true hv
  exact ⟨e, he, hnodup, hsnake, (expand_constants snakeCaseDeclaration e he).2.2 hnodup hsnake⟩

/-- `struct Entity { createdAt: String, created_at: i32 }`. -/
def createdAtDeclaration : Declaration :=
  ⟨[], "Entity", {}, .struct (.named [⟨[], some "createdAt", [.ident "String"]⟩,
    ⟨[], some "created_at", [.ident "i32"]⟩])⟩

/-- Deriving succeeds for a struct with fields `createdAt` and `created_at`, registered under
these two query names, and declares two constants named `CREATED_AT`. -/
theorem expand_constants_collide :
    ∃ e, createdAtDeclaration.expand = .ok e ∧ e.fieldNames = ["createdAt", "created_at"] ∧
      e.constants = ["CREATED_AT", "CREATED_AT"] ∧ ¬ e.constants.Nodup := by
  obtain ⟨e, he, hv⟩ := Declaration.exists_expand_eq_ok
    (show createdAtDeclaration.expand.toOption.map (fun e => (e.fieldNames, e.constants)) =
      some (["createdAt", "created_at"], ["CREATED_AT", "CREATED_AT"]) by decide +kernel)
  simp only [Prod.mk.injEq] at hv
  refine ⟨e, he, hv.1, hv.2, ?_⟩
  rw [hv.2]
  decide

end Derive

end RecordQuery
