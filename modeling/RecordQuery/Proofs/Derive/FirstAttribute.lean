import RecordQuery.Proofs.Derive.Constants

/-!
# Which `#[query(...)]` attributes deriving reads

Deriving reads the options of the struct and of each field from their first `#[query(...)]`
attribute alone (`Derive.queryOptions` finds it). Every option in that attribute is honoured or
rejected: on a field, a read succeeds only when each option is `skip` or `rename = "..."`, and
then the field is skipped exactly when one of them is `skip` and renamed exactly when one of
them is a rename (`Derive.foldlM_fieldOption`); on the struct, each option must be
`rename_all = "..."`, and a rule is set exactly when there is one (`Derive.foldlM_structOption`).

Any later `#[query(...)]` attribute is not read at all: cutting every attribute list after its
first `#[query(...)]` attribute changes nothing that deriving gives
(`Derive.Declaration.expand_firstQueryOnly`). So a `skip` or a `rename` in a second attribute is
neither applied nor reported: `#[query(rename = "x")] #[query(skip)] a: i32` registers the
field `a` under `x` (`Derive.expand_ignores_later_skip`).
-/

namespace RecordQuery

/-- A chain of steps that may fail succeeds exactly when its first step does and the rest
succeeds from there. -/
theorem Except.bind_eq_ok {ε α β : Type} {x : Except ε α} {f : α → Except ε β} {b : β} :
    x >>= f = .ok b ↔ ∃ a, x = .ok a ∧ f a = .ok b := by
  cases x with
  | error e => simp [bind, Except.bind]
  | ok a => simp [bind, Except.bind]

namespace Derive

/-! ### The options of one attribute -/

/-- Reads one option of a field: `skip`, or `rename` with a string literal. -/
def fieldOption (opts : FieldOptions) : Meta → Except DeriveError FieldOptions
  | .word p =>
    if p.isIdent "skip" then pure { opts with skip := true } else throw .unknownFieldOption
  | .nameValue p v =>
    if p.isIdent "rename" then do
      let s ← stringOption "rename" v
      pure { opts with rename := some s }
    else throw .unknownFieldOption
  | .list .. => throw .unknownFieldOption

/-- Reads one option of a struct: `rename_all` with a string literal naming a rule. -/
def structOption (_ : Option RenameRule) : Meta → Except DeriveError (Option RenameRule)
  | .nameValue p v =>
    if p.isIdent "rename_all" then do
      let text ← stringOption "rename_all" v
      match RenameRule.ofText? text with
      | some r => pure (some r)
      | none => throw (.unknownRenameRule text)
    else throw .unknownStructOption
  | _ => throw .unknownStructOption

theorem fieldOptions_eq (attrs : List Attribute) :
    fieldOptions attrs = queryOptions attrs >>= fun ms => ms.foldlM fieldOption {} :=
  rfl

theorem structRule_eq (attrs : List Attribute) :
    structRule attrs = queryOptions attrs >>= fun ms => ms.foldlM structOption none :=
  rfl

/-- An option of a field that reads sets the skip when it is a word and the rename when it is a
name and a value. -/
theorem fieldOption_eq_ok {opts o : FieldOptions} {m : Meta} (h : fieldOption opts m = .ok o) :
    (o.skip = true ↔ opts.skip = true ∨ ∃ p, m = .word p) ∧
      (o.rename.isSome ↔ opts.rename.isSome ∨ ∃ p v, m = .nameValue p v) := by
  cases m with
  | word p =>
    simp only [fieldOption] at h
    split at h
    · cases h
      simp
    · cases h
  | nameValue p v =>
    simp only [fieldOption] at h
    split at h
    · obtain ⟨s, -, h⟩ := Except.bind_eq_ok.mp h
      cases h
      simp
    · cases h
  | list p args => cases h

/-- An option of a struct that reads sets a rule. -/
theorem structOption_eq_ok {init rule : Option RenameRule} {m : Meta}
    (h : structOption init m = .ok rule) : rule.isSome = true := by
  cases m with
  | nameValue p v =>
    simp only [structOption] at h
    split at h
    · obtain ⟨text, -, h⟩ := Except.bind_eq_ok.mp h
      split at h
      · cases h
        rfl
      · cases h
    · cases h
  | word p => cases h
  | list p args => cases h

/-- The options of a field read from a list of options: skipped when one of them is a word,
renamed when one of them is a name and a value. -/
theorem foldlM_fieldOption {ms : List Meta} {init o : FieldOptions}
    (h : ms.foldlM fieldOption init = .ok o) :
    (o.skip = true ↔ init.skip = true ∨ ∃ p, Meta.word p ∈ ms) ∧
      (o.rename.isSome ↔ init.rename.isSome ∨ ∃ p v, Meta.nameValue p v ∈ ms) := by
  induction ms generalizing init with
  | nil =>
    cases h
    simp
  | cons m ms ih =>
    rw [List.foldlM_cons] at h
    obtain ⟨mid, hm, h⟩ := Except.bind_eq_ok.mp h
    obtain ⟨hskip, hrename⟩ := ih h
    obtain ⟨hskip₁, hrename₁⟩ := fieldOption_eq_ok hm
    -- the first option's words and names join those of the rest
    rw [hskip, hskip₁, hrename, hrename₁]
    simp only [List.mem_cons, exists_or, or_assoc, @eq_comm _ m, and_self]

/-- A rule read from a list of options is set exactly when there is an option, or it was set
before. -/
theorem foldlM_structOption {ms : List Meta} {init rule : Option RenameRule}
    (h : ms.foldlM structOption init = .ok rule) : (rule.isSome ↔ init.isSome ∨ ms ≠ []) := by
  induction ms generalizing init with
  | nil =>
    cases h
    simp
  | cons m ms ih =>
    rw [List.foldlM_cons] at h
    obtain ⟨mid, hm, h⟩ := Except.bind_eq_ok.mp h
    rw [ih h]
    simp [structOption_eq_ok hm]

/-- The options of a field that read are those of its first `#[query(...)]` attribute: it is
skipped exactly when one of them is a word, `skip`, and renamed exactly when one of them is a
name and a value, `rename = "..."`. -/
theorem fieldOptions_eq_ok {attrs : List Attribute} {ms : List Meta} {o : FieldOptions}
    (hq : queryOptions attrs = .ok ms) (h : fieldOptions attrs = .ok o) :
    (o.skip = true ↔ ∃ p, Meta.word p ∈ ms) ∧
      (o.rename.isSome ↔ ∃ p v, Meta.nameValue p v ∈ ms) := by
  rw [fieldOptions_eq, hq] at h
  simpa using foldlM_fieldOption h

/-- The rule of a struct that reads is set exactly when its first `#[query(...)]` attribute
holds an option, `rename_all = "..."`. -/
theorem structRule_eq_ok {attrs : List Attribute} {ms : List Meta} {rule : Option RenameRule}
    (hq : queryOptions attrs = .ok ms) (h : structRule attrs = .ok rule) :
    rule.isSome ↔ ms ≠ [] := by
  rw [structRule_eq, hq] at h
  simpa using foldlM_structOption h

/-! ### Later attributes -/

/-- The attributes up to the first `#[query(...)]` one, that one included; all of them when
there is none. -/
def upToFirstQuery : List Attribute → List Attribute
  | [] => []
  | a :: rest => if a.item.name.isIdent "query" then [a] else a :: upToFirstQuery rest

/-- The first `#[query(...)]` attribute stands among the attributes up to it. -/
theorem find?_upToFirstQuery (attrs : List Attribute) :
    Attribute.find? (upToFirstQuery attrs) "query" = Attribute.find? attrs "query" := by
  induction attrs with
  | nil => rfl
  | cons a rest ih =>
    by_cases h : a.item.name.isIdent "query" = true
    · simp [upToFirstQuery, Attribute.find?, h]
    · simpa [upToFirstQuery, Attribute.find?, h] using ih

theorem queryOptions_upToFirstQuery (attrs : List Attribute) :
    queryOptions (upToFirstQuery attrs) = queryOptions attrs := by
  rw [queryOptions, queryOptions, find?_upToFirstQuery]

theorem fieldOptions_upToFirstQuery (attrs : List Attribute) :
    fieldOptions (upToFirstQuery attrs) = fieldOptions attrs := by
  rw [fieldOptions_eq, fieldOptions_eq, queryOptions_upToFirstQuery]

theorem structRule_upToFirstQuery (attrs : List Attribute) :
    structRule (upToFirstQuery attrs) = structRule attrs := by
  rw [structRule_eq, structRule_eq, queryOptions_upToFirstQuery]

/-- A field without the attributes after its first `#[query(...)]` one. -/
def FieldDecl.firstQueryOnly (f : FieldDecl) : FieldDecl := { f with attrs := upToFirstQuery f.attrs }

/-- A declaration without the attributes after the first `#[query(...)]` one, on the struct
and on each of its named fields. -/
def Declaration.firstQueryOnly (d : Declaration) : Declaration :=
  { d with
    attrs := upToFirstQuery d.attrs
    shape := match d.shape with
      | .struct (.named fs) => .struct (.named (fs.map FieldDecl.firstQueryOnly))
      | s => s }

theorem register_firstQueryOnly (rule : Option RenameRule) (acc : List RegisteredField)
    (f : FieldDecl) : register rule acc f.firstQueryOnly = register rule acc f := by
  simp only [register, FieldDecl.firstQueryOnly, fieldOptions_upToFirstQuery]
  rfl

/-- Deriving reads no attribute after the first `#[query(...)]` one, on the struct or on a
field. -/
theorem Declaration.expand_firstQueryOnly (d : Declaration) :
    d.firstQueryOnly.expand = d.expand := by
  unfold Declaration.expand Declaration.firstQueryOnly
  cases hs : d.shape with
  | struct fl =>
    cases fl with
    | named fs =>
      simp only [pure_bind, structRule_upToFirstQuery, List.foldlM_map, register_firstQueryOnly]
    | unnamed fs => rfl
    | unit => rfl
  | enum vs => rfl
  | union fs => rfl

/-- Deriving reads the first `#[query(...)]` attribute of a struct and of each of its fields,
and no later one. Dropping every attribute after the first `#[query(...)]` one changes nothing
that deriving gives. Every option of a first attribute is honoured or rejected: the struct's
rule is set exactly when its attribute holds an option; a field's options, when they read, skip
it exactly when its attribute holds a word and rename it exactly when it holds a name and a
value; and a field whose first attribute holds `skip` is never registered. -/
theorem expand_reads_first_query_attribute (d : Declaration) :
    d.firstQueryOnly.expand = d.expand ∧
    (∀ ms rule, queryOptions d.attrs = .ok ms → structRule d.attrs = .ok rule →
      (rule.isSome ↔ ms ≠ [])) ∧
    ∀ fs, d.shape = .struct (.named fs) → ∀ f ∈ fs, ∀ ms, queryOptions f.attrs = .ok ms →
      (∀ o, fieldOptions f.attrs = .ok o →
        (o.skip = true ↔ ∃ p, Meta.word p ∈ ms) ∧
          (o.rename.isSome ↔ ∃ p v, Meta.nameValue p v ∈ ms)) ∧
      ((∃ p, Meta.word p ∈ ms ∧ p.isIdent "skip" = true) → ∀ rule, f.registered? rule = none) := by
  refine ⟨Declaration.expand_firstQueryOnly d, fun _ _ hq h => structRule_eq_ok hq h,
    fun _ _ f _ ms hq => ⟨fun _ h => fieldOptions_eq_ok hq h, fun hword rule => ?_⟩⟩
  obtain ⟨p, hp, -⟩ := hword
  -- options that do not read register nothing, and options that read skip the field
  unfold FieldDecl.registered?
  cases ho : fieldOptions f.attrs with
  | error err => rfl
  | ok o =>
    have hskip := ((fieldOptions_eq_ok hq ho).1).mpr ⟨p, hp⟩
    simp [hskip]

/-- A field whose first `#[query(...)]` attribute skips it, and whose second renames it. -/
def skipFirstField : FieldDecl :=
  ⟨[queryAttribute [.ident "skip"],
    queryAttribute [.ident "rename", .punct '=' .alone, .literal "\"x\""]], some "a", [.ident "i32"]⟩

/-- `struct S { #[query(skip)] #[query(rename = "x")] a: i32 }`. -/
def skipFirstDeclaration : Declaration := ⟨[], "S", {}, .struct (.named [skipFirstField])⟩

/-- A field whose first `#[query(...)]` attribute holds `skip` is not registered, whatever its
second one says. -/
theorem expand_reads_first_query_attribute_skipFirst :
    queryOptions skipFirstField.attrs = .ok [.word ⟨false, ["skip"]⟩] ∧
      skipFirstField.registered? none = none :=
  have hq : queryOptions skipFirstField.attrs = .ok [.word ⟨false, ["skip"]⟩] := by rfl
  ⟨hq, ((expand_reads_first_query_attribute skipFirstDeclaration).2.2 [skipFirstField] rfl
    skipFirstField (List.mem_singleton_self _) _ hq).2 ⟨_, List.mem_singleton_self _, rfl⟩ none⟩

/-- `struct S { #[query(rename = "x")] #[query(skip)] a: i32 }`. -/
def laterSkipDeclaration : Declaration :=
  ⟨[], "S", {}, .struct (.named [⟨[queryAttribute
      [.ident "rename", .punct '=' .alone, .literal "\"x\""], queryAttribute [.ident "skip"]],
    some "a", [.ident "i32"]⟩])⟩

/-- A `skip` in the second `#[query(...)]` attribute of a field is ignored: the field is
registered under the rename of its first attribute. -/
theorem expand_ignores_later_skip :
    ∃ e, laterSkipDeclaration.expand = .ok e ∧ e.fieldNames = ["x"] ∧
      (e.field? "x").map (·.member) = some "a" := by
  obtain ⟨e, he, hv⟩ := Declaration.exists_expand_eq_ok
    (show laterSkipDeclaration.expand.toOption.map
      (fun e => (e.fieldNames, (e.field? "x").map (·.member))) = some (["x"], some "a") by
      decide +kernel)
  simp only [Prod.mk.injEq] at hv
  exact ⟨e, he, hv.1, hv.2⟩

end Derive

end RecordQuery
