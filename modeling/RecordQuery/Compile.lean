import RecordQuery.Registry.Overrides
import RecordQuery.Condition
import RecordQuery.Definitions

/-!
# Compiling and applying definitions

Compiling turns definitions into a predicate and a comparator on records of a queryable
type. Each filter resolves its field (the field must exist even when an override replaces
it), reads the field through the filter override if one is registered, builds its condition
against the field's kind, and reports `compiled filter …` as a debug line. A text field (or a
list of texts) compares against the filter's kept text read as text, so that `007` stays
`007`. Each sort key resolves its field the same way through the order overrides; its kind
must be scalar. Filters compile before sort keys, and the first error ends compiling.

Applying keeps the records that pass every filter, in their order, and when there are sort
keys sorts them stably by the first key that tells two records apart.

A `Query` collects filters and comparators step by step: sorting anew discards the earlier
comparators, sorting further appends one. Compiled definitions extend a query with their
filter and their sort keys.
-/

namespace RecordQuery

/-- How a compiled filter or sort key reads its field. -/
inductive Access (α : Type) where
  | field (f : Field α)
  | override (o : Override α)

namespace Access

/-- The kind the field has for this reading. -/
def kind {α : Type} : Access α → ValueKind
  | .field f => f.kind
  | .override o => o.kind

/-- What a record shows for the field. -/
def read {α : Type} : Access α → α → FieldValue
  | .field f, r => f.get r
  | .override o, r => o.read r

/-- Reads through the override when there is one; the field must exist either way. -/
def resolve (α : Type) [Queryable α] (name : String) (table : Option (Override α)) :
    Checked (Access α) :=
  match Queryable.field? α name with
  | none => Checked.fail (.unknownField name (Queryable.recordName α))
  | some f =>
    match table with
    | some o => pure (.override o)
    | none => pure (.field f)

end Access

/-- The literal a filter compares against on a field of the given kind: for text fields and
lists of texts, the kept text read as text; otherwise the filter's value. -/
def FilterDef.literalFor (f : FilterDef) (kind : ValueKind) : Value :=
  let textField := kind == .text || kind == .list .text
  match f.text with
  | some t => if textField then Value.readAsText t else f.value
  | none => f.value

/-- A comparator and its direction. -/
structure SortKey (α : Type) where
  cmp : α → α → Ordering
  dir : Direction

/-- Compiled definitions: one predicate per filter and one key per sort key. -/
structure Compiled (α : Type) where
  filters : List (α → Bool)
  orders : List (SortKey α)

/-- The first outcome that is not `eq`, or `eq`. -/
def firstDifference {α : Type} (cmps : List (α → α → Ordering)) (a b : α) : Ordering :=
  match cmps with
  | [] => .eq
  | c :: rest =>
    match c a b with
    | .eq => firstDifference rest a b
    | o => o

/-- Sorts stably by a comparator. -/
def sortStable {α : Type} (cmp : α → α → Ordering) (xs : List α) : List α :=
  xs.mergeSort fun a b => cmp a b != .gt

namespace Compiled

/-- The record passes every filter. -/
def passes {α : Type} (c : Compiled α) (r : α) : Bool := c.filters.all fun f => f r

/-- Compares two records by the sort keys in turn. -/
def compare {α : Type} (c : Compiled α) (a b : α) : Ordering :=
  firstDifference (c.orders.map fun k x y => k.dir.apply (k.cmp x y)) a b

/-- No filters and no sort keys. -/
def isEmpty {α : Type} (c : Compiled α) : Bool := c.filters.isEmpty && c.orders.isEmpty

/-- The records that pass, sorted stably when there are sort keys. -/
def apply {α : Type} (c : Compiled α) (src : List α) : List α :=
  let kept := src.filter c.passes
  if c.orders.isEmpty then kept else sortStable c.compare kept

/-- The description `Compiled { record: "R", filters: N, orders: M }`. -/
def describe {α : Type} [Queryable α] (c : Compiled α) : String :=
  "Compiled \x7b record: " ++ Text.quote (Queryable.recordName α) ++ ", filters: " ++
    Decimal.natText c.filters.length ++ ", orders: " ++ Decimal.natText c.orders.length ++ " \x7d"

end Compiled

/-- Compiles one filter. -/
def compileFilter {α : Type} [Queryable α] (table : Overrides α) (f : FilterDef) :
    Checked (α → Bool) := do
  let o := table.find? .filter f.field
  let access ← Access.resolve α f.field o
  let cond ← Condition.build f.field access.kind f.op (f.literalFor access.kind)
  Checked.lift (Logged.debug ("compiled filter " ++ f.field ++ f.op.token ++ f.value.toText ++
    " on " ++ Queryable.recordName α ++ " as " ++ access.kind.toText ++
    (if o.isSome then " (override)" else "")))
  pure fun r => cond.accepts (access.read r)

/-- Compiles one sort key. -/
def compileOrder {α : Type} [Queryable α] (table : Overrides α) (d : OrderDef) :
    Checked (SortKey α) := do
  let o := table.find? .order d.field
  let access ← Access.resolve α d.field o
  if !access.kind.isSortable then
    Checked.fail (.unsupportedOperator d.field none access.kind .collectionSortKey)
  else
    Checked.lift (Logged.debug ("compiled order " ++ d.field ++ " " ++ d.direction.name ++
      " on " ++ Queryable.recordName α ++ (if o.isSome then " (override)" else "")))
    pure ⟨fun a b => (access.read a).sortCompare (access.read b), d.direction⟩

/-- Compiles definitions: all filters, then all sort keys. -/
def compile {α : Type} [Queryable α] (d : Definitions) (table : Overrides α) :
    Checked (Compiled α) := do
  let filters ← d.filters.mapM (compileFilter table)
  let orders ← d.orders.mapM (compileOrder table)
  pure ⟨filters, orders⟩

/-- Compiles and applies definitions. -/
def applyDefinitions {α : Type} [Queryable α] (src : List α) (d : Definitions)
    (table : Overrides α) : Checked (List α) := do
  let c ← compile d table
  pure (c.apply src)

/-- A query built step by step: filters and comparators. -/
structure Query (α : Type) where
  filters : List (α → Bool) := []
  orders : List (α → α → Ordering) := []

namespace Query

/-- Adds a filter. -/
def filter {α : Type} (q : Query α) (p : α → Bool) : Query α :=
  { q with filters := q.filters ++ [p] }

/-- Sorts by this comparator alone, discarding earlier ones. -/
def orderBy {α : Type} (q : Query α) (cmp : α → α → Ordering) : Query α :=
  { q with orders := [cmp] }

/-- Sorts further by this comparator. -/
def thenBy {α : Type} (q : Query α) (cmp : α → α → Ordering) : Query α :=
  { q with orders := q.orders ++ [cmp] }

/-- Sorts by this comparator reversed alone. -/
def orderByDescending {α : Type} (q : Query α) (cmp : α → α → Ordering) : Query α :=
  q.orderBy fun a b => (cmp a b).swap

/-- Sorts further by this comparator reversed. -/
def thenByDescending {α : Type} (q : Query α) (cmp : α → α → Ordering) : Query α :=
  q.thenBy fun a b => (cmp a b).swap

/-- The records that pass every filter, sorted stably when there are comparators. -/
def run {α : Type} (q : Query α) (src : List α) : List α :=
  let kept := src.filter fun r => q.filters.all fun f => f r
  if q.orders.isEmpty then kept else sortStable (firstDifference q.orders) kept

/-- The description `Query { filters: N, orders: M }`. -/
def describe {α : Type} (q : Query α) : String :=
  "Query \x7b filters: " ++ Decimal.natText q.filters.length ++ ", orders: " ++
    Decimal.natText q.orders.length ++ " \x7d"

end Query

namespace Compiled

/-- The predicate of all filters together. -/
def predicate {α : Type} (c : Compiled α) : α → Bool := c.passes

/-- The comparator of all sort keys together. -/
def comparator {α : Type} (c : Compiled α) : α → α → Ordering := c.compare

/-- Extends a query: the combined filter if there are filters, then the first sort key
sorting anew and the others sorting further. -/
def applyTo {α : Type} (c : Compiled α) (q : Query α) : Query α :=
  let q := if c.filters.isEmpty then q else q.filter c.predicate
  (c.orders.zipIdx).foldl (fun q (k, i) =>
    match i == 0, k.dir with
    | true, .asc => q.orderBy k.cmp
    | true, .desc => q.orderByDescending k.cmp
    | false, .asc => q.thenBy k.cmp
    | false, .desc => q.thenByDescending k.cmp) q

end Compiled

end RecordQuery
