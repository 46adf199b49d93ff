/-!
# Filter operators

Fourteen operators, each with a short token used in query strings and a name used in
reports. Seven are positive: equality, the four order comparisons, containment (`=*`),
membership in a set (`[]`), starting with (`^`) and ending with (`$`). Five of them have a
negation whose token begins with `!`; the negation of a filter selects exactly what the
positive filter does not.
-/

namespace RecordQuery

/-- A filter operator. -/
inductive FilterOperator where
  | eq
  | ne
  | gt
  | ge
  | lt
  | le
  | has
  | notHas
  | mem
  | notMem
  | startsWith
  | notStartsWith
  | endsWith
  | notEndsWith
deriving DecidableEq

namespace FilterOperator

/-- All operators, in their fixed order. -/
def all : List FilterOperator :=
  [.eq, .ne, .gt, .ge, .lt, .le, .has, .notHas, .mem, .notMem, .startsWith, .notStartsWith,
    .endsWith, .notEndsWith]

/-- The token of an operator in query strings. -/
def token : FilterOperator → String
  | .eq => "="
  | .ne => "!="
  | .gt => ">"
  | .ge => ">="
  | .lt => "<"
  | .le => "<="
  | .has => "=*"
  | .notHas => "!*"
  | .mem => "[]"
  | .notMem => "![]"
  | .startsWith => "^"
  | .notStartsWith => "!^"
  | .endsWith => "$"
  | .notEndsWith => "!$"

/-- The name of an operator in reports. -/
def name : FilterOperator → String
  | .eq => "eq"
  | .ne => "neq"
  | .gt => "gt"
  | .ge => "gte"
  | .lt => "lt"
  | .le => "lte"
  | .has => "has"
  | .notHas => "nhas"
  | .mem => "in"
  | .notMem => "nin"
  | .startsWith => "sw"
  | .notStartsWith => "nsw"
  | .endsWith => "ew"
  | .notEndsWith => "new"

/-- The operator with this token. -/
def ofToken? (t : String) : Option FilterOperator := all.find? (·.token == t)

/-- The operator with this name. -/
def ofName? (n : String) : Option FilterOperator := all.find? (·.name == n)

/-- The positive operator of a negation; a positive operator is its own base. -/
def base : FilterOperator → FilterOperator
  | .ne => .eq
  | .notHas => .has
  | .notMem => .mem
  | .notStartsWith => .startsWith
  | .notEndsWith => .endsWith
  | op => op

/-- The operator negates its base. -/
def isNegated (op : FilterOperator) : Bool := op.base != op

/-- The four order comparisons. -/
def isOrdering : FilterOperator → Bool
  | .gt | .ge | .lt | .le => true
  | _ => false

/-- Starting and ending with, and their negations. -/
def isTextOp (op : FilterOperator) : Bool :=
  match op.base with
  | .startsWith | .endsWith => true
  | _ => false

/-- Containment and membership, and their negations. -/
def isSetOp (op : FilterOperator) : Bool :=
  match op.base with
  | .has | .mem => true
  | _ => false

/-- Whether a comparison outcome satisfies the operator; false for operators that are not
comparisons. -/
def evalOrdering : FilterOperator → Ordering → Bool
  | .eq, o => o == .eq
  | .ne, o => o != .eq
  | .gt, o => o == .gt
  | .ge, o => o != .lt
  | .lt, o => o == .lt
  | .le, o => o != .gt
  | _, _ => false

end FilterOperator

end RecordQuery
