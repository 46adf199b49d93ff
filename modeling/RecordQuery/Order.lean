import RecordQuery.Value.Basic

/-!
# Comparing field values

`FieldValue.compare?` compares two field values of the same scalar kind: numbers by value
(an integer against a float after rounding the integer to the nearest double, and with the
IEEE comparison, so NaN is unordered), booleans with `false` first, UUIDs as numbers,
durations by length, timestamps in time, and texts by code points. Values of different
kinds, lists and nulls are unordered.

`FieldValue.sortCompare` is the order of sort keys. It is total: null comes before
everything, floats (and integers against floats) follow the IEEE total order, and values that
`compare?` leaves unordered count as equal.

A sort direction applies to an outcome: ascending keeps it, descending reverses it.
-/

namespace RecordQuery

/-- Compares two character lists lexicographically by code point. -/
def compareChars : List Char → List Char → Ordering
  | [], [] => .eq
  | [], _ :: _ => .lt
  | _ :: _, [] => .gt
  | a :: as, b :: bs =>
    match Ord.compare a.toNat b.toNat with
    | .eq => compareChars as bs
    | o => o

/-- Compares two texts by code points. -/
def compareText (s t : String) : Ordering := compareChars s.toList t.toList

namespace FieldValue

/-- The comparison of two field values of one scalar kind; `none` when unordered. -/
def compare? : FieldValue → FieldValue → Option Ordering
  | .integer a, .integer b => some (Ord.compare a.val b.val)
  | .float a, .float b => a.compare? b
  | .integer a, .float b => (Binary64.ofInt a.val).compare? b
  | .float a, .integer b => a.compare? (Binary64.ofInt b.val)
  | .boolean a, .boolean b => some (Ord.compare a b)
  | .uuid a, .uuid b => some (a.compare b)
  | .duration a, .duration b => some (a.compare b)
  | .timestamp a, .timestamp b => some (a.compare b)
  | .text a, .text b => some (compareText a b)
  | _, _ => none

/-- The total order of sort keys: null first, floats by the IEEE total order. -/
def sortCompare : FieldValue → FieldValue → Ordering
  | .null, .null => .eq
  | .null, _ => .lt
  | _, .null => .gt
  | .float a, .float b => a.totalCompare b
  | .integer a, .float b => (Binary64.ofInt a.val).totalCompare b
  | .float a, .integer b => a.totalCompare (Binary64.ofInt b.val)
  | a, b => (a.compare? b).getD .eq

end FieldValue

/-- The direction of a sort key. -/
inductive Direction where
  | asc
  | desc
deriving DecidableEq

namespace Direction

/-- Applies the direction to an outcome. -/
def apply : Direction → Ordering → Ordering
  | .asc, o => o
  | .desc, o => o.swap

/-- `asc` or `desc`. -/
def name : Direction → String
  | .asc => "asc"
  | .desc => "desc"

end Direction

end RecordQuery
