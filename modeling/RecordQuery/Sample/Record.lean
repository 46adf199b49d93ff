import RecordQuery.Registry.Overrides
import RecordQuery.Text.Case

/-!
# A sample record

`Rec` has one field of each shape the registry supports: integers of four widths, texts,
an optional text renamed `nick`, doubles, an optional double, a single, booleans, a UUID, a
duration, a timestamp, a date, an optional UTC instant, lists of texts, integers and UUIDs, a
list of optional texts, a list of lists, and a field called `Type`. Its position in a list
(`idx`) and a secret are not queryable. Query names are the field names in PascalCase.

`Rec.override?` names a few replacement readers for overrides.
-/

namespace RecordQuery

/-- A sample record type. -/
structure Rec where
  idx : Nat := 0
  id : Int64 := 0
  big : UInt64 := 0
  small : Int8 := 0
  wide : Int128 := Int128.zero
  name : String := ""
  nickname : Option String := none
  score : Binary64 := Binary64.zero
  ratio : Option Binary64 := none
  half : Binary32 := ⟨0⟩
  active : Bool := false
  flag : Option Bool := none
  uid : Uuid := Uuid.nil
  elapsed : Duration := Duration.zero
  created : Timestamp := Timestamp.epoch
  day : Date := Date.epoch
  seenAt : Option Timestamp := none
  tags : List String := []
  nums : List Int64 := []
  uids : List Uuid := []
  maybe : List (Option String) := []
  grid : List (List Int64) := []
  typeName : String := ""
  secret : String := ""

namespace Rec

/-- The queryable fields, in declaration order. -/
def fields : List (Field Rec) :=
  [Field.of "Id" (·.id), Field.of "Big" (·.big), Field.of "Small" (·.small),
    Field.of "Wide" (·.wide), Field.of "Name" (·.name), Field.of "nick" (·.nickname),
    Field.of "Score" (·.score), Field.of "Ratio" (·.ratio), Field.of "Half" (·.half),
    Field.of "Active" (·.active), Field.of "Flag" (·.flag), Field.of "Uid" (·.uid),
    Field.of "Elapsed" (·.elapsed), Field.of "Created" (·.created), Field.of "Day" (·.day),
    Field.of "SeenAt" (·.seenAt), Field.of "Tags" (·.tags), Field.of "Nums" (·.nums),
    Field.of "Uids" (·.uids), Field.of "Maybe" (·.maybe), Field.of "Grid" (·.grid),
    Field.of "Type" (·.typeName)]

instance : Queryable Rec := ⟨"driver::Rec", fields⟩

/-- The constants of the query names: the field names in upper snake case, with their query
names. -/
def constants : List (String × String) :=
  [("ID", "Id"), ("BIG", "Big"), ("SMALL", "Small"), ("WIDE", "Wide"), ("NAME", "Name"),
    ("NICKNAME", "nick"), ("SCORE", "Score"), ("RATIO", "Ratio"), ("HALF", "Half"),
    ("ACTIVE", "Active"), ("FLAG", "Flag"), ("UID", "Uid"), ("ELAPSED", "Elapsed"),
    ("CREATED", "Created"), ("DAY", "Day"), ("SEEN_AT", "SeenAt"), ("TAGS", "Tags"),
    ("NUMS", "Nums"), ("UIDS", "Uids"), ("MAYBE", "Maybe"), ("GRID", "Grid"), ("TYPE", "Type")]

/-- The override of a field by the named reader. -/
def override? (fn field : String) : Option (Override Rec) :=
  match fn with
  | "id_plus_100" => some (Override.of field fun r => r.id + 100)
  | "neg_id" => some (Override.of field fun r => -r.id)
  | "name_lower" => some (Override.of field fun r => Text.toLower r.name)
  | "name_len" => some (Override.of field fun r => USize.ofNat r.name.length)
  | "tags_len" => some (Override.of field fun r => USize.ofNat r.tags.length)
  | "nick" => some (Override.of field fun r => r.nickname)
  | "score_double" => some (Override.of field fun r => r.score.double)
  | "created_date" => some (Override.of field fun r => r.created.date)
  | "nums" => some (Override.of field fun r => r.nums)
  | "tags" => some (Override.of field fun r => r.tags)
  | "always_none" => some (Override.of field fun (_ : Rec) => (none : Option Int64))
  | "active_not" => some (Override.of field fun r => !r.active)
  | "uid_text" => some (Override.of field fun r => r.uid.toText)
  | "elapsed_secs" => some (Override.of field fun r => Int64.ofInt r.elapsed.seconds)
  | "type_text" => some (Override.of field fun r => r.typeName)
  | _ => none

end Rec

end RecordQuery
