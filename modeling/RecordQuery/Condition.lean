import RecordQuery.Value.Parse
import RecordQuery.Order
import RecordQuery.Error

/-!
# Conditions

A condition is a filter checked against the kind of its field and ready to test field
values. Building it decides, from the operator and the kind, what test to run, and brings
the literal to the field's kind:

- equality and the order comparisons need a scalar field, an orderable one for the orders,
  and a literal that can be brought to the field's kind;
- containment (`=*`) tests a text field for a substring (the literal's text) or a list field
  for an element equal to the literal;
- membership (`[]`) needs an array literal and a scalar field; items that cannot be brought
  to the field's kind are dropped;
- starting and ending with need a text field and a scalar literal, whose text is used.

Bringing a literal to a kind: a text field takes the literal's text; an integer becomes a
float for a float field; a float stays a float for an integer field; a text literal is read
as a value and, if that gives a scalar other than text, brought to the kind in turn; any
other literal must already be of the kind.

A negated operator runs the test of its base and inverts it. A null field value matches
exactly the negated conditions.
-/

namespace RecordQuery

/-- What a condition tests a field value for. -/
inductive Test where
  /-- The comparison of the field value with the literal satisfies the operator. -/
  | compare (op : FilterOperator) (literal : Value)
  /-- The field's text contains the needle. -/
  | textContains (needle : String)
  /-- The field's list has an element equal to the literal; never, when there is none. -/
  | listContains (literal : Option Value)
  /-- The field's text starts with the text. -/
  | startsWith (lead : String)
  /-- The field's text ends with the text. -/
  | endsWith (tail : String)
  /-- The field value equals one of the items. -/
  | member (items : List Value)

/-- A test and whether its outcome is inverted. -/
structure Condition where
  test : Test
  negated : Bool

/-- The needle occurs in the text, as a contiguous part. -/
def containsChars : List Char → List Char → Bool
  | _, [] => true
  | [], _ :: _ => false
  | h :: hs, needle => needle.isPrefixOf (h :: hs) || containsChars hs needle

/-- The field value equals the value. -/
def FieldValue.equals (v : FieldValue) (lit : Value) : Bool :=
  v.compare? lit.asField == some .eq

/-- The literal brought to a kind, for a literal that is neither a text nor an array. -/
def coerceScalar (literal : Value) (kind : ValueKind) : Option Value :=
  match kind, literal with
  | .float, .integer n => some (.float (Binary64.ofInt n.val))
  | .integer, .float _ => some literal
  | _, _ => if literal.kind == kind then some literal else none

/-- The literal brought to the field's kind, reporting the reading of a text literal. -/
def coerce (literal : Value) (kind : ValueKind) : Logged (Option Value) :=
  if literal.isArray then pure none
  else
    match kind, literal with
    | .text, .text _ => pure (some literal)
    | .text, _ => pure (some (.text literal.toText))
    | .float, .integer n => pure (some (.float (Binary64.ofInt n.val)))
    | .integer, .float _ => pure (some literal)
    | _, .text t => do
      let parsed ← Value.readLogged t
      if parsed.isArray || parsed.isText then pure none else pure (coerceScalar parsed kind)
    | _, _ => pure (if literal.kind == kind then some literal else none)

namespace Test

/-- Runs the test on a field value that is not null. -/
def eval : Test → FieldValue → Bool
  | .compare op lit, v =>
    match v.compare? lit.asField with
    | some o => op.evalOrdering o
    | none => false
  | .textContains needle, v =>
    match v.asText? with
    | some s => containsChars s.toList needle.toList
    | none => false
  | .listContains none, _ => false
  | .listContains (some lit), v =>
    match v.asList? with
    | some items => items.any (·.equals lit)
    | none => false
  | .startsWith lead, v =>
    match v.asText? with
    | some s => lead.toList.isPrefixOf s.toList
    | none => false
  | .endsWith tail, v =>
    match v.asText? with
    | some s => tail.toList.reverse.isPrefixOf s.toList.reverse
    | none => false
  | .member items, v => items.any v.equals

end Test

namespace Condition

/-- Whether a field value satisfies the condition; null satisfies exactly the negated ones. -/
def accepts (c : Condition) (v : FieldValue) : Bool :=
  if v.isNull then c.negated else c.test.eval v != c.negated

/-- The comparison condition for equality or an order comparison `base`. -/
def comparison (field : String) (kind : ValueKind) (op base : FilterOperator)
    (literal : Value) : Checked Condition :=
  let unsupported (r : Unsupported) : Checked Condition :=
    Checked.fail (.unsupportedOperator field (some op) kind r)
  if base.isOrdering && !kind.isOrderable then unsupported .noOrdering
  else if !kind.isScalar then unsupported .collectionCompared
  else do
    match ← Checked.lift (coerce literal kind) with
    | none => unsupported (.incomparable literal.kind)
    | some v => pure ⟨.compare base v, op.isNegated⟩

/-- Builds the condition of a filter on a field of the given kind. -/
def build (field : String) (kind : ValueKind) (op : FilterOperator) (literal : Value) :
    Checked Condition :=
  let unsupported (r : Unsupported) : Checked Condition :=
    Checked.fail (.unsupportedOperator field (some op) kind r)
  let negated := op.isNegated
  match op with
  | .eq | .ne | .gt | .ge | .lt | .le => comparison field kind op op.base literal
  | .has | .notHas =>
    if literal.isArray then unsupported .arrayNeedsIn
    else
      match kind with
      | .text => pure ⟨.textContains literal.toText, negated⟩
      | .list element => do
        let c ← Checked.lift (coerce literal element)
        pure ⟨.listContains c, negated⟩
      | _ => unsupported .notTextOrCollection
  | .mem | .notMem =>
    match literal.asArray? with
    | none => unsupported .notArray
    | some items =>
      if !kind.isScalar then unsupported .collectionMember
      else do
        let cs ← Checked.lift (items.filterMapM (coerce · kind))
        pure ⟨.member cs, negated⟩
  | .startsWith | .notStartsWith =>
    if kind != .text then unsupported .notText
    else if literal.isArray then unsupported .notScalar
    else pure ⟨.startsWith literal.toText, negated⟩
  | .endsWith | .notEndsWith =>
    if kind != .text then unsupported .notText
    else if literal.isArray then unsupported .notScalar
    else pure ⟨.endsWith literal.toText, negated⟩

end Condition

end RecordQuery
