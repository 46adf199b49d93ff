import RecordQuery.Value.Parse
import RecordQuery.Order
import RecordQuery.Error

/-!
# Query definitions

A query is a list of filters and a list of sort keys. A filter names a field, an operator and
a value; when it was read from text it also keeps that text, trimmed, which re-encoding
writes back as it was and which text fields compare against. A sort key names a field and
whether it sorts descending.

Two filters are equal when field, operator and value are equal; the kept text does not
count, and values compare with IEEE equality on floats.
-/

namespace RecordQuery

/-- One filter: a field, an operator, a value, and the text it was read from. -/
structure FilterDef where
  field : String
  op : FilterOperator
  value : Value
  text : Option String := none

/-- One sort key: a field, and whether it sorts descending. -/
structure OrderDef where
  field : String
  reversed : Bool

/-- Filters and sort keys, in order. -/
structure Definitions where
  filters : List FilterDef := []
  orders : List OrderDef := []

namespace FilterDef

/-- The filter read from text: the value is the text read as a value, and the trimmed text
is kept. -/
def ofText (field : String) (op : FilterOperator) (text : String) : Logged FilterDef := do
  let v ← Value.readLogged text
  pure ⟨field, op, v, some (Text.trim text)⟩

/-- The text that encoding writes for the value: the kept text, else the value's text. -/
def valueText (f : FilterDef) : String := f.text.getD f.value.toText

/-- Equality of filters, ignoring the kept text. -/
def beq (f g : FilterDef) : Bool := f.field == g.field && f.op == g.op && f.value.beq g.value

end FilterDef

namespace OrderDef

/-- The direction of the key. -/
def direction (o : OrderDef) : Direction := if o.reversed then .desc else .asc

/-- Equality of sort keys. -/
def beq (o p : OrderDef) : Bool := o.field == p.field && o.reversed == p.reversed

end OrderDef

namespace Definitions

/-- No filters and no sort keys. -/
def isEmpty (d : Definitions) : Bool := d.filters.isEmpty && d.orders.isEmpty

/-- Adds a filter at the end. -/
def pushFilter (d : Definitions) (f : FilterDef) : Definitions :=
  { d with filters := d.filters ++ [f] }

/-- Adds a sort key at the end. -/
def pushOrder (d : Definitions) (o : OrderDef) : Definitions :=
  { d with orders := d.orders ++ [o] }

/-- Equality of definitions: the same filters and sort keys in the same order. -/
def beq (d e : Definitions) : Bool :=
  d.filters.length == e.filters.length && (d.filters.zip e.filters).all (fun p => p.1.beq p.2) &&
    d.orders.length == e.orders.length && (d.orders.zip e.orders).all (fun p => p.1.beq p.2)

end Definitions

end RecordQuery
