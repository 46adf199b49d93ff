import Mathlib.Data.List.Duplicate
import RecordQuery.Derive.Expansion
import RecordQuery.Sample.Record

/-!
# The derived registry

Deriving a registry for a struct registers its fields one by one (`Derive.register`): a
field's options are read, a skipped field adds nothing, and any other adds its registered
field unless its query name is already taken. Said of each field alone, a field of the struct
is registered under its query name, with its name as written and its type, exactly when its
options read and do not skip it (`Derive.FieldDecl.registered?`).

The loop succeeds exactly when every field's options read and the registered fields' query
names are distinct, and then it has registered the fields in declaration order
(`Derive.foldlM_register_eq_ok_iff`). So deriving fails exactly when the declaration is not a
struct with named fields, an options attribute that it reads is malformed, or two registered
fields get one query name (`Derive.expand_error_iff`); and when it succeeds, its query names
are those of the registered fields, in order and distinct, and looking a name up finds the
field registered under it and nothing for any other name (`Derive.expand_registry`).
-/

namespace RecordQuery

namespace Derive

/-- The field that a field of a struct registers, when its options read and do not skip it:
its query name (its rename, else the struct's rule applied to its name without `r#`, else
that name), its name as written, its type and the name of its constant. -/
def FieldDecl.registered? (rule : Option RenameRule) (f : FieldDecl) : Option RegisteredField :=
  match fieldOptions f.attrs with
  | .ok opts =>
    if opts.skip then none
    else
      let own := unraw (f.name.getD "")
      some ⟨queryName rule opts own, f.name.getD "", renderList f.ty, screamingSnake own⟩
  | .error _ => none

/-- The fields of a struct that are registered, in declaration order. -/
def registeredFields (rule : Option RenameRule) (fs : List FieldDecl) : List RegisteredField :=
  fs.filterMap (FieldDecl.registered? rule)

variable {rule : Option RenameRule} {f : FieldDecl} {acc out : List RegisteredField}

/-! ### One field -/

/-- A field that registers is not skipped, and registers under the query name its options
give, with its name as written and its type. -/
theorem FieldDecl.eq_of_registered? {rf : RegisteredField} (h : f.registered? rule = some rf) :
    ∃ o, fieldOptions f.attrs = .ok o ∧ o.skip = false ∧
      rf = ⟨queryName rule o (unraw (f.name.getD "")), f.name.getD "", renderList f.ty,
        screamingSnake (unraw (f.name.getD ""))⟩ := by
  simp only [FieldDecl.registered?] at h
  split at h
  · rename_i o ho
    split at h
    · cases h
    · rename_i hskip
      cases h
      exact ⟨o, ho, by simpa using hskip, rfl⟩
  · cases h

theorem register_of_error {e : DeriveError} (h : fieldOptions f.attrs = .error e) :
    register rule acc f = .error e := by
  simp [register, h, bind, Except.bind]

/-- A field whose options read but that registers nothing is skipped. -/
theorem register_of_registered?_none {o : FieldOptions} (ho : fieldOptions f.attrs = .ok o)
    (h : f.registered? rule = none) : register rule acc f = .ok acc := by
  simp only [FieldDecl.registered?, ho] at h
  split at h
  · rename_i hskip
    simp [register, ho, hskip, bind, Except.bind, pure, Except.pure]
  · cases h

/-- A field that registers adds its registered field, unless its query name is taken. -/
theorem register_of_registered?_some {rf : RegisteredField} (h : f.registered? rule = some rf) :
    register rule acc f =
      if acc.any (·.name == rf.name) then .error (.duplicateName rf.name) else .ok (acc ++ [rf]) := by
  obtain ⟨o, ho, hskip, rfl⟩ := FieldDecl.eq_of_registered? h
  simp [register, ho, hskip, bind, Except.bind, pure, Except.pure, throw, throwThe,
    MonadExceptOf.throw]

/-! ### The loop over the fields -/

/-- Registering fields one by one after distinct ones succeeds exactly when every field's
options read and the query names of all registered fields are distinct; it then returns the
earlier fields followed by the registered fields in order. -/
theorem foldlM_register_eq_ok_iff {fs : List FieldDecl} (hacc : (acc.map (·.name)).Nodup) :
    fs.foldlM (register rule) acc = .ok out ↔
      (∀ f ∈ fs, ∃ o, fieldOptions f.attrs = .ok o) ∧
        ((acc ++ registeredFields rule fs).map (·.name)).Nodup ∧
        out = acc ++ registeredFields rule fs := by
  induction fs generalizing acc with
  | nil =>
    simp only [List.foldlM_nil, registeredFields, List.filterMap_nil, List.append_nil]
    exact ⟨fun h => ⟨by simp, hacc, by cases h; rfl⟩, fun ⟨_, _, h⟩ => h ▸ rfl⟩
  | cons f fs ih =>
    rw [List.foldlM_cons]
    cases ho : fieldOptions f.attrs with
    | error e =>
      -- the field's options do not read: the loop stops, and not every field's options read
      rw [register_of_error ho]
      simp only [bind, Except.bind, reduceCtorEq, false_iff, not_and]
      intro hall
      obtain ⟨o, ho'⟩ := hall f List.mem_cons_self
      rw [ho] at ho'
      cases ho'
    | ok o =>
      have hall : (∀ g ∈ f :: fs, ∃ o, fieldOptions g.attrs = .ok o) ↔
          ∀ g ∈ fs, ∃ o, fieldOptions g.attrs = .ok o := by
        simp [ho]
      cases hr : f.registered? rule with
      | none =>
        -- a skipped field: the loop goes on from the same fields
        have hregs : registeredFields rule (f :: fs) = registeredFields rule fs := by
          simp [registeredFields, hr]
        rw [register_of_registered?_none ho hr, hall, hregs]
        exact ih hacc
      | some rf =>
        have hregs : registeredFields rule (f :: fs) = rf :: registeredFields rule fs := by
          simp [registeredFields, hr]
        rw [register_of_registered?_some hr, hall, hregs]
        split
        · -- the query name is taken: the loop stops, and the names are not distinct
          rename_i htaken
          simp only [bind, Except.bind, reduceCtorEq, false_iff, not_and]
          intro _ hnodup
          obtain ⟨g, hg, hname⟩ := List.any_eq_true.mp htaken
          have hin : rf.name ∈ acc.map (·.name) :=
            List.mem_map.mpr ⟨g, hg, by simpa using hname⟩
          rw [List.map_append, List.map_cons, List.nodup_append] at hnodup
          exact fun _ => hnodup.2.2 _ hin _ List.mem_cons_self rfl
        · -- the query name is new: the loop goes on with the field registered
          rename_i hnew
          have hnot : rf.name ∉ acc.map (·.name) := by
            intro hin
            obtain ⟨g, hg, hname⟩ := List.mem_map.mp hin
            exact hnew (List.any_eq_true.mpr ⟨g, hg, by simp [hname]⟩)
          have hacc' : ((acc ++ [rf]).map (·.name)).Nodup := by
            rw [List.map_append, List.nodup_append]
            simpa [hacc] using hnot
          simp only [bind, Except.bind]
          rw [ih hacc', List.append_assoc, List.singleton_append]

/-! ### Deriving -/

/-- Deriving succeeds exactly for a struct with named fields whose options, and whose fields'
options, all read, and whose registered fields have distinct query names; the registry then
holds the registered fields in declaration order. -/
theorem expand_eq_ok_iff {d : Declaration} {e : Expansion} :
    d.expand = .ok e ↔
      ∃ fs rule, d.shape = .struct (.named fs) ∧ structRule d.attrs = .ok rule ∧
        (∀ f ∈ fs, ∃ o, fieldOptions f.attrs = .ok o) ∧
        ((registeredFields rule fs).map (·.name)).Nodup ∧
        e = ⟨d.generics.typeText d.name, d.generics.implText, d.generics.whereText?,
          registeredFields rule fs⟩ := by
  unfold Declaration.expand
  cases hshape : d.shape with
  | struct fl =>
    cases fl with
    | named fs =>
      cases hrule : structRule d.attrs with
      | error err => simp [bind, Except.bind, pure, Except.pure]
      | ok rule =>
        have key := fun out => @foldlM_register_eq_ok_iff rule [] out fs List.nodup_nil
        simp only [List.nil_append] at key
        simp only [bind, Except.bind, pure, Except.pure]
        cases hfold : fs.foldlM (register rule) [] with
        | error err =>
          -- the loop fails, so not every field's options read or two names agree
          simp only [reduceCtorEq, false_iff, not_exists, not_and]
          rintro _ _ ⟨rfl⟩ ⟨rfl⟩ hall hnodup -
          have := (key (registeredFields rule fs)).mpr ⟨hall, hnodup, rfl⟩
          rw [hfold] at this
          cases this
        | ok regs =>
          obtain ⟨hall, hnodup, rfl⟩ := (key regs).mp hfold
          simp only [Except.ok.injEq]
          constructor
          · rintro rfl
            exact ⟨fs, rule, rfl, rfl, hall, hnodup, rfl⟩
          · rintro ⟨_, _, ⟨rfl⟩, ⟨rfl⟩, -, -, rfl⟩
            rfl
    | unnamed fs => simp [bind, Except.bind, throw, throwThe, MonadExceptOf.throw]
    | unit => simp [bind, Except.bind, throw, throwThe, MonadExceptOf.throw]
  | enum vs => simp [bind, Except.bind, throw, throwThe, MonadExceptOf.throw]
  | union fs => simp [bind, Except.bind, throw, throwThe, MonadExceptOf.throw]

/-- Why a registry cannot be derived: the declaration is not a struct with named fields; or it
is one and its options attribute is malformed; or the options attribute of one of its fields,
skipped or not, is malformed; or some query name is that of two registered fields. -/
def Declaration.DeriveFails (d : Declaration) : Prop :=
  (∀ fs, d.shape ≠ .struct (.named fs)) ∨
    ∃ fs, d.shape = .struct (.named fs) ∧
      ((∃ err, structRule d.attrs = .error err) ∨
        ∃ rule, structRule d.attrs = .ok rule ∧
          ((∃ f ∈ fs, ∃ err, fieldOptions f.attrs = .error err) ∨
            ∃ n, List.Duplicate n ((registeredFields rule fs).map (·.name))))

/-- Deriving fails exactly for the reasons `DeriveFails` lists. -/
theorem expand_error_iff (d : Declaration) :
    (∃ err, d.expand = .error err) ↔ d.DeriveFails := by
  have hfails : (∃ err, d.expand = .error err) ↔ ¬ ∃ e, d.expand = .ok e := by
    cases d.expand <;> simp
  simp only [hfails, expand_eq_ok_iff, Declaration.DeriveFails]
  cases hshape : d.shape with
  | struct fl =>
    cases fl with
    | named fs =>
      cases hrule : structRule d.attrs with
      | error err => simp
      | ok rule =>
        -- options that do not read are options that fail
        have hfail : ∀ f : FieldDecl, (∀ o, ¬ fieldOptions f.attrs = .ok o) ↔
            ∃ err, fieldOptions f.attrs = .error err := fun f => by
          cases fieldOptions f.attrs <;> simp
        simp [List.exists_duplicate_iff_not_nodup, imp_iff_not_or, hfail]
    | unnamed fs => simp
    | unit => simp
  | enum vs => simp
  | union fs => simp

/-- A declaration that derives, derives some registry: evaluating what it derives names it. -/
theorem Declaration.exists_expand_eq_ok {d : Declaration} {β : Type} {f : Expansion → β}
    {v : β} (h : d.expand.toOption.map f = some v) : ∃ e, d.expand = .ok e ∧ f e = v := by
  cases he : d.expand with
  | error err => simp [he, Except.toOption] at h
  | ok e =>
    simp only [he, Except.toOption, Option.map_some, Option.some.injEq] at h
    exact ⟨e, rfl, h⟩

/-! ### Looking names up -/

/-- In a registry whose query names are distinct, a name finds exactly the field registered
under it. -/
theorem Expansion.field?_eq_some_iff {e : Expansion} (h : e.fieldNames.Nodup) {n : String}
    {rf : RegisteredField} : e.field? n = some rf ↔ rf ∈ e.fields ∧ rf.name = n := by
  constructor
  · intro hf
    exact ⟨List.mem_of_find?_eq_some hf, by simpa using List.find?_some hf⟩
  · rintro ⟨hmem, rfl⟩
    have hsome : (e.fields.find? (·.name == rf.name)).isSome :=
      List.find?_isSome.mpr ⟨rf, hmem, beq_self_eq_true rf.name⟩
    obtain ⟨x, hx⟩ := Option.isSome_iff_exists.mp hsome
    -- the field found has the same query name, and names are distinct
    have hname : x.name = rf.name := by simpa using List.find?_some hx
    rw [Expansion.field?, hx, List.inj_on_of_nodup_map h (List.mem_of_find?_eq_some hx) hmem hname]

/-- A name finds a field exactly when it is one of the registry's query names. -/
theorem Expansion.isSome_field? (e : Expansion) (n : String) :
    (e.field? n).isSome ↔ n ∈ e.fieldNames := by
  simp [Expansion.field?, Expansion.fieldNames, List.find?_isSome]

/-- The derived registry is consistent. Deriving fails exactly when the declaration is not a
struct with named fields, an options attribute that deriving reads is malformed, or two fields
that are not skipped get one query name. A derived registry lists, in declaration order, the
query names of the fields that are not skipped (the rename, else the struct's rule applied to
the name without `r#`, else that name), pairwise distinct; a name finds a field exactly when it
is listed, and then the field registered under it, with the declared field's name and type, which the generated accessor reads. -/
theorem expand_registry (d : Declaration) :
    ((∃ err, d.expand = .error err) ↔ d.DeriveFails) ∧
      ∀ e, d.expand = .ok e →
        ∃ fs rule, d.shape = .struct (.named fs) ∧ structRule d.attrs = .ok rule ∧
          e.fieldNames = (registeredFields rule fs).map (·.name) ∧ e.fieldNames.Nodup ∧
          ∀ n, ((e.field? n).isSome ↔ n ∈ e.fieldNames) ∧
            ∀ rf, e.field? n = some rf → rf.name = n ∧
              ∃ f ∈ fs, ∃ o, fieldOptions f.attrs = .ok o ∧ o.skip = false ∧
                rf.name = queryName rule o (unraw (f.name.getD "")) ∧
                rf.member = f.name.getD "" ∧ rf.ty = renderList f.ty := by
  refine ⟨expand_error_iff d, fun e he => ?_⟩
  obtain ⟨fs, rule, hshape, hrule, -, hnodup, he⟩ := expand_eq_ok_iff.mp he
  have hfields : e.fields = registeredFields rule fs := by rw [he]
  have hnames : e.fieldNames = (registeredFields rule fs).map (·.name) := by
    rw [Expansion.fieldNames, hfields]
  refine ⟨fs, rule, hshape, hrule, hnames, hnames ▸ hnodup,
    fun n => ⟨Expansion.isSome_field? e n, fun rf hrf => ?_⟩⟩
  obtain ⟨hmem, hname⟩ := (Expansion.field?_eq_some_iff (hnames ▸ hnodup)).mp hrf
  have hregistered : rf ∈ registeredFields rule fs := hfields ▸ hmem
  obtain ⟨f, hf, hrf⟩ := List.mem_filterMap.mp hregistered
  obtain ⟨o, ho, hskip, rfl⟩ := FieldDecl.eq_of_registered? hrf
  exact ⟨hname, f, hf, o, ho, hskip, rfl, rfl, rfl⟩

/-- The `#[query(...)]` attribute with these arguments. -/
def queryAttribute (args : List Token) : Attribute := ⟨false, .list ⟨false, ["query"]⟩ args⟩

/-- `#[query(rename_all = "PascalCase")] struct Entity { created_at: String,
#[query(rename = "Label")] name: String, #[query(skip)] secret: String, r#type: u8 }`. -/
def entityDeclaration : Declaration :=
  ⟨[queryAttribute [.ident "rename_all", .punct '=' .alone, .literal "\"PascalCase\""]], "Entity",
    {}, .struct (.named [⟨[], some "created_at", [.ident "String"]⟩,
      ⟨[queryAttribute [.ident "rename", .punct '=' .alone, .literal "\"Label\""]], some "name",
        [.ident "String"]⟩,
      ⟨[queryAttribute [.ident "skip"]], some "secret", [.ident "String"]⟩,
      ⟨[], some "r#type", [.ident "u8"]⟩])⟩

/-- The registry of a struct with a rename rule, a renamed field, a skipped field and a raw
identifier is derived, and is consistent. -/
theorem expand_registry_entity :
    ∃ e, entityDeclaration.expand = .ok e ∧
      ((∃ err, entityDeclaration.expand = .error err) ↔ entityDeclaration.DeriveFails) ∧
      ∃ fs rule, entityDeclaration.shape = .struct (.named fs) ∧
        structRule entityDeclaration.attrs = .ok rule ∧
        e.fieldNames = (registeredFields rule fs).map (·.name) ∧ e.fieldNames.Nodup ∧
        ∀ n, ((e.field? n).isSome ↔ n ∈ e.fieldNames) ∧
          ∀ rf, e.field? n = some rf → rf.name = n ∧
            ∃ f ∈ fs, ∃ o, fieldOptions f.attrs = .ok o ∧ o.skip = false ∧
              rf.name = queryName rule o (unraw (f.name.getD "")) ∧
              rf.member = f.name.getD "" ∧ rf.ty = renderList f.ty := by
  have hok : entityDeclaration.expand.isOk = true := by decide +kernel
  cases he : entityDeclaration.expand with
  | error err =>
    rw [he] at hok
    cases hok
  | ok e =>
    rw [← he]
    exact ⟨e, he, (expand_registry entityDeclaration).1,
      (expand_registry entityDeclaration).2 e he⟩

end Derive

namespace Rec

open Derive

/-- The tokens of the type `outer<inner>`, where `inner` is a type's tokens. -/
def genericTokens (outer : String) (inner : List Token) : List Token :=
  [.ident outer, .punct '<' .alone] ++ inner ++ [.punct '>' .alone]

/-- A field declaration without attributes. -/
def plainField (name : String) (ty : List Token) : FieldDecl := ⟨[], some name, ty⟩

/-- The declaration of the sample record: `#[query(rename_all = "PascalCase")] struct Rec`,
with its position `idx` and `secret` skipped, `nickname` renamed `nick` and the raw field
`r#type`. -/
def declaration : Declaration :=
  ⟨[queryAttribute [.ident "rename_all", .punct '=' .alone, .literal "\"PascalCase\""]], "Rec", {},
    .struct (.named [
      ⟨[queryAttribute [.ident "skip"]], some "idx", [.ident "usize"]⟩,
      plainField "id" [.ident "i64"], plainField "big" [.ident "u64"],
      plainField "small" [.ident "i8"], plainField "wide" [.ident "i128"],
      plainField "name" [.ident "String"],
      ⟨[queryAttribute [.ident "rename", .punct '=' .alone, .literal "\"nick\""]], some "nickname",
        genericTokens "Option" [.ident "String"]⟩,
      plainField "score" [.ident "f64"], plainField "ratio" (genericTokens "Option" [.ident "f64"]),
      plainField "half" [.ident "f32"], plainField "active" [.ident "bool"],
      plainField "flag" (genericTokens "Option" [.ident "bool"]),
      plainField "uid" [.ident "Uuid"], plainField "elapsed" [.ident "TimeDelta"],
      plainField "created" [.ident "NaiveDateTime"], plainField "day" [.ident "NaiveDate"],
      plainField "seen_at" [.ident "Option", .punct '<' .alone, .ident "DateTime", .punct '<' .alone,
        .ident "Utc", .punct '>' .joint, .punct '>' .alone],
      plainField "tags" (genericTokens "Vec" [.ident "String"]),
      plainField "nums" (genericTokens "Vec" [.ident "i64"]),
      plainField "uids" (genericTokens "Vec" [.ident "Uuid"]),
      plainField "maybe" [.ident "Vec", .punct '<' .alone, .ident "Option", .punct '<' .alone,
        .ident "String", .punct '>' .joint, .punct '>' .alone],
      plainField "grid" [.ident "Vec", .punct '<' .alone, .ident "Vec", .punct '<' .alone,
        .ident "i64", .punct '>' .joint, .punct '>' .alone],
      plainField "r#type" [.ident "String"],
      ⟨[queryAttribute [.ident "skip"]], some "secret", [.ident "String"]⟩])⟩

/-- The sample record's registry is the one derived from its declaration: its query names, in
order, and its constants with the query names they hold. -/
theorem expand_declaration :
    ∃ e, declaration.expand = .ok e ∧ e.fieldNames = Queryable.fieldNames Rec ∧
      e.fields.map (fun rf => (rf.constant, rf.name)) = constants := by
  obtain ⟨e, he, hv⟩ := Declaration.exists_expand_eq_ok
    (show declaration.expand.toOption.map
      (fun e => (e.fieldNames, e.fields.map fun rf => (rf.constant, rf.name))) =
      some (Queryable.fieldNames Rec, constants) by decide +kernel)
  simp only [Prod.mk.injEq] at hv
  exact ⟨e, he, hv⟩

end Rec

end RecordQuery
