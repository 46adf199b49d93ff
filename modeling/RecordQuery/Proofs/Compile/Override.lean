import RecordQuery.Proofs.Compile.Apply

/-!
# Overrides that read a field as its accessor does

An override reads a field through a value: the field value it computes becomes a value, which
drops the null items of lists at every depth, and comes back as a field value
(`FieldValue.throughValue`). No filter and no sort key tells a field value from what passes
through a value. Null stays null, a scalar is unchanged and a list stays a list, so every
comparison, text test and sort comparison sees the same thing; and a list loses only null
items, which never equal a literal, so containment finds the same items
(`Condition.accepts_throughValue`, `FieldValue.sortCompare_throughValue`).

So an override that shows, for every record, the field value of the record type's own
accessor of its field (`Override.Reads`) compiles to the same filters and sort keys, with the
same kind and so the same errors (`result_compile_of_readAsFields`). Registering, for a
field, the reader of the field's own value as a filter override, an order override or both
changes nothing that applying definitions gives (`applyDefinitions_identityOverride`).
-/

namespace RecordQuery

namespace FieldValue

/-- A field value passed through a value, as an override shows it. -/
def throughValue (v : FieldValue) : FieldValue :=
  match v.toValue? with
  | some x => x.asField
  | none => .null

theorem throughValue_list (items : List FieldValue) :
    throughValue (.list items) = .list (Value.asFieldList (toValues items)) := rfl

@[simp] theorem isNull_throughValue (v : FieldValue) : v.throughValue.isNull = v.isNull := by
  cases v <;> rfl

@[simp] theorem asText?_throughValue (v : FieldValue) : v.throughValue.asText? = v.asText? := by
  cases v <;> rfl

theorem compare?_list (items : List FieldValue) (w : FieldValue) :
    (list items).compare? w = none := by
  cases w <;> rfl

/-- Comparing is blind to the null items of lists: lists are unordered either way. -/
@[simp] theorem compare?_throughValue (v w : FieldValue) :
    v.throughValue.compare? w = v.compare? w := by
  cases v with
  | list items => rw [throughValue_list, compare?_list, compare?_list]
  | _ => rfl

@[simp] theorem equals_throughValue (v : FieldValue) (lit : Value) :
    v.throughValue.equals lit = v.equals lit := by
  simp [equals]

theorem eq_null_of_toValue?_eq_none {v : FieldValue} (h : v.toValue? = none) : v = .null := by
  cases v <;> first | rfl | cases h

/-- A list passed through a value has an item equal to a literal exactly when the list has:
the items it drops are null, and null equals nothing. -/
theorem any_equals_toValues (items : List FieldValue) (lit : Value) :
    ((Value.asFieldList (toValues items)).any fun v => v.equals lit) =
      items.any fun v => v.equals lit := by
  induction items with
  | nil => rfl
  | cons v rest ih =>
    cases hv : v.toValue? with
    | none =>
      obtain rfl := eq_null_of_toValue?_eq_none hv
      simp only [toValues, hv, ih, List.any_cons]
      rfl
    | some x =>
      have hx : x.asField = v.throughValue := by simp [throughValue, hv]
      simp only [toValues, hv, Value.asFieldList, List.any_cons, ih, hx, equals_throughValue]

/-- Sort keys compare what passes through a value as they compare the field values. -/
theorem sortCompare_throughValue (v w : FieldValue) :
    v.throughValue.sortCompare w.throughValue = v.sortCompare w := by
  cases v <;> cases w <;> rfl

end FieldValue

/-- Every test gives on a field value passed through a value what it gives on the field
value. -/
theorem Test.eval_throughValue (t : Test) (v : FieldValue) : t.eval v.throughValue = t.eval v := by
  cases t with
  | compare op lit => simp only [Test.eval, FieldValue.compare?_throughValue]
  | textContains needle => simp only [Test.eval, FieldValue.asText?_throughValue]
  | listContains lit =>
    cases lit with
    | none => rfl
    | some lit =>
      -- only a list has items, and its items that are not null all come through
      cases v with
      | list items =>
        simp only [Test.eval, FieldValue.throughValue_list, FieldValue.asList?,
          FieldValue.any_equals_toValues]
      | _ => rfl
  | startsWith lead => simp only [Test.eval, FieldValue.asText?_throughValue]
  | endsWith tail => simp only [Test.eval, FieldValue.asText?_throughValue]
  | member items => simp only [Test.eval, funext (FieldValue.equals_throughValue v)]

/-- A condition accepts a field value passed through a value exactly when it accepts the field
value. -/
theorem Condition.accepts_throughValue (c : Condition) (v : FieldValue) :
    c.accepts v.throughValue = c.accepts v := by
  simp only [accepts, FieldValue.isNull_throughValue, Test.eval_throughValue]

variable {α : Type}

/-- The override shows the field `f`: it has the field's kind, and shows every record's field
value passed through a value. -/
structure Override.Reads (o : Override α) (f : Field α) : Prop where
  kind_eq : o.kind = f.kind
  read_eq : ∀ r, o.read r = (f.get r).throughValue

/-- The override of a field that reads the value its accessor reads shows that field. -/
theorem Override.reads_of {β : Type} [FieldType β] (name : String) (get : α → β) :
    (Override.of name get).Reads (Field.of name get) :=
  ⟨rfl, fun _ => rfl⟩

variable [Queryable α]

/-- Every override of the set shows the field of its name. -/
def Overrides.ReadAsFields (table : Overrides α) : Prop :=
  ∀ o ∈ table.filter ++ table.order, ∃ f, Queryable.field? α o.field = some f ∧ o.Reads f

namespace Access

theorem result_resolve_some {name : String} {f : Field α} (hf : Queryable.field? α name = some f)
    (o : Override α) : Checked.result (resolve α name (some o)) = .ok (.override o) := by
  simp [resolve, hf]

theorem result_resolve_none {name : String} {f : Field α} (hf : Queryable.field? α name = some f) :
    Checked.result (resolve α name none) = .ok (.field f) := by
  simp [resolve, hf]

end Access

variable {table : Overrides α}

/-- Compiling a filter builds the condition for the kind of the field as resolved, and tests
what the field shows. -/
theorem result_compileFilter {f : FilterDef} {a : Access α}
    (ha : Checked.result (Access.resolve α f.field (table.find? .filter f.field)) = .ok a) :
    Checked.result (compileFilter table f) =
      (Checked.result (Condition.build f.field a.kind f.op (f.literalFor a.kind))).map
        fun cond r => cond.accepts (a.read r) := by
  simp only [compileFilter, Checked.result_bind, ha]
  cases Checked.result (Condition.build f.field a.kind f.op (f.literalFor a.kind)) <;> rfl

/-- Compiling a sort key checks that the kind of the field as resolved is sortable, and
compares what the field shows. -/
theorem result_compileOrder {d : OrderDef} {a : Access α}
    (ha : Checked.result (Access.resolve α d.field (table.find? .order d.field)) = .ok a) :
    Checked.result (compileOrder table d) =
      if a.kind.isSortable then .ok ⟨fun x y => (a.read x).sortCompare (a.read y), d.direction⟩
      else .error (.unsupportedOperator d.field none a.kind .collectionSortKey) := by
  simp only [compileOrder, Checked.result_bind, ha]
  cases a.kind.isSortable <;> rfl

/-- An override found for a field shows the field of that name. -/
theorem exists_reads_of_find? (h : table.ReadAsFields) {p : OverridePart} {name : String}
    {o : Override α} (hfind : table.find? p name = some o) :
    ∃ f, Queryable.field? α name = some f ∧ o.Reads f := by
  have hname : o.field = name := by simpa using List.find?_some hfind
  have hmem : o ∈ table.filter ++ table.order := by
    cases p with
    | filter => exact List.mem_append_left _ (List.mem_of_find?_eq_some hfind)
    | order => exact List.mem_append_right _ (List.mem_of_find?_eq_some hfind)
  rw [← hname]
  exact h o hmem

/-- A filter compiles with overrides that show their fields as it compiles without. -/
theorem result_compileFilter_of_readAsFields (h : table.ReadAsFields) (f : FilterDef) :
    Checked.result (compileFilter table f) = Checked.result (compileFilter {} f) := by
  cases hfind : table.find? .filter f.field with
  | none => simp only [compileFilter, hfind]; rfl
  | some o =>
    obtain ⟨fd, hfd, hreads⟩ := exists_reads_of_find? h hfind
    -- with the override the field resolves to it, without to the registered field
    have hover : Checked.result (Access.resolve α f.field (table.find? .filter f.field)) =
        .ok (.override o) := by
      rw [hfind]
      exact Access.result_resolve_some hfd o
    have hfield : Checked.result (Access.resolve α f.field (({} : Overrides α).find? .filter
        f.field)) = .ok (.field fd) := Access.result_resolve_none hfd
    rw [result_compileFilter hover, result_compileFilter hfield]
    simp only [Access.kind, Access.read, hreads.kind_eq, hreads.read_eq,
      Condition.accepts_throughValue]

/-- A sort key compiles with overrides that show their fields as it compiles without. -/
theorem result_compileOrder_of_readAsFields (h : table.ReadAsFields) (d : OrderDef) :
    Checked.result (compileOrder table d) = Checked.result (compileOrder {} d) := by
  cases hfind : table.find? .order d.field with
  | none => simp only [compileOrder, hfind]; rfl
  | some o =>
    obtain ⟨fd, hfd, hreads⟩ := exists_reads_of_find? h hfind
    have hover : Checked.result (Access.resolve α d.field (table.find? .order d.field)) =
        .ok (.override o) := by
      rw [hfind]
      exact Access.result_resolve_some hfd o
    have hfield : Checked.result (Access.resolve α d.field (({} : Overrides α).find? .order
        d.field)) = .ok (.field fd) := Access.result_resolve_none hfd
    rw [result_compileOrder hover, result_compileOrder hfield]
    simp only [Access.kind, Access.read, hreads.kind_eq, hreads.read_eq,
      FieldValue.sortCompare_throughValue]
    rfl

/-- Definitions compile with overrides that show their fields as they compile without. -/
theorem result_compile_of_readAsFields (h : table.ReadAsFields) (d : Definitions) :
    Checked.result (compile d table) = Checked.result (compile d {}) := by
  have hf := Checked.result_mapM_congr fun f (_ : f ∈ d.filters) =>
    result_compileFilter_of_readAsFields h f
  have ho := Checked.result_mapM_congr fun o (_ : o ∈ d.orders) =>
    result_compileOrder_of_readAsFields h o
  simp only [compile, Checked.result_bind, hf, ho]

/-- Applying definitions with overrides that show their fields gives what applying them
without overrides gives. -/
theorem applyDefinitions_of_readAsFields (h : table.ReadAsFields) (d : Definitions)
    (src : List α) :
    Checked.result (applyDefinitions src d table) = Checked.result (applyDefinitions src d {}) := by
  simp only [applyDefinitions, Checked.result_bind, result_compile_of_readAsFields h]

/-- A set of identity overrides of one field shows its fields. -/
theorem Overrides.readAsFields_of_identity {β : Type} [FieldType β] {name : String}
    {get : α → β} (hf : Queryable.field? α name = some (Field.of name get))
    (h : ∀ o ∈ table.filter ++ table.order, o = Override.of name get) : table.ReadAsFields := by
  intro o ho
  rw [h o ho]
  exact ⟨Field.of name get, hf, Override.reads_of name get⟩

/-- An identity override is transparent: registering, for a field that reads a value of a
field type, the reader of that same value as a filter override, as an order override, or as
both, leaves what applying any definitions to any source gives as it is, failures included. -/
theorem applyDefinitions_identityOverride {β : Type} [FieldType β] {name : String}
    {get : α → β} (hf : Queryable.field? α name = some (Field.of name get))
    (d : Definitions) (src : List α) :
    Checked.result (applyDefinitions src d ⟨[Override.of name get], []⟩) =
        Checked.result (applyDefinitions src d {}) ∧
      Checked.result (applyDefinitions src d ⟨[], [Override.of name get]⟩) =
        Checked.result (applyDefinitions src d {}) ∧
      Checked.result (applyDefinitions src d ⟨[Override.of name get], [Override.of name get]⟩) =
        Checked.result (applyDefinitions src d {}) := by
  refine ⟨?_, ?_, ?_⟩ <;>
  exact applyDefinitions_of_readAsFields (Overrides.readAsFields_of_identity hf (by simp)) d src

/-- The registered field of the sample record's list of optional texts. -/
theorem Rec.field?_maybe : Queryable.field? Rec "Maybe" = some (Field.of "Maybe" (·.maybe)) := rfl

/-- Keep the records whose optional texts include `a`, sorted by those texts' field. -/
def maybeHasA : Definitions := ⟨[⟨"Maybe", .has, .text "a", none⟩], [⟨"Maybe", false⟩]⟩

/-- Sample records whose lists of optional texts hold absent items. -/
def maybeRecs : List Rec :=
  [{ idx := 0, maybe := [none, some "a"] }, { idx := 1, maybe := [some "b", none] },
    { idx := 2, maybe := [] }]

/-- The identity override of the list of optional texts changes nothing, here the failure to
sort by a list. -/
theorem applyDefinitions_identityOverride_maybe :
    Queryable.field? Rec "Maybe" = some (Field.of "Maybe" (·.maybe)) ∧
      Checked.result (applyDefinitions maybeRecs maybeHasA ⟨[Override.of "Maybe" (·.maybe)], []⟩) =
          Checked.result (applyDefinitions maybeRecs maybeHasA {}) ∧
        Checked.result (applyDefinitions maybeRecs maybeHasA ⟨[], [Override.of "Maybe" (·.maybe)]⟩) =
          Checked.result (applyDefinitions maybeRecs maybeHasA {}) ∧
        Checked.result (applyDefinitions maybeRecs maybeHasA
            ⟨[Override.of "Maybe" (·.maybe)], [Override.of "Maybe" (·.maybe)]⟩) =
          Checked.result (applyDefinitions maybeRecs maybeHasA {}) :=
  ⟨Rec.field?_maybe, applyDefinitions_identityOverride Rec.field?_maybe maybeHasA maybeRecs⟩

end RecordQuery
