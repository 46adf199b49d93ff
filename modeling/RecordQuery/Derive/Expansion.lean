import RecordQuery.Derive.Declaration
import RecordQuery.Derive.Rename

/-!
# Deriving a query registry

From the declaration of a struct with named fields, the registry lists every field that is
not skipped, in declaration order, under its query name: the name given by `rename`, else
the name that the struct's `rename_all` rule gives the field, else the field's own name (a
raw identifier without its `r#`). Each registered field also names a constant, the screaming
snake case of the field's own name, whose value is the query name.

Options come from the first `#[query(...)]` attribute of the struct and of each field; later
ones are not read. On the struct the only option is `rename_all = "..."` (the last one
counts); on a field, `skip` and `rename = "..."` (the last rename counts). Checks run in
this order: the declaration is a struct with named fields, the struct's options, then field
by field its options and that its query name is new.
-/

namespace RecordQuery

namespace Derive

/-- Why no registry can be derived. -/
inductive DeriveError where
  /-- The declaration is an enum or a union. -/
  | notStruct
  /-- The struct has unnamed fields or none. -/
  | unnamedFields
  /-- An argument list does not read as meta items. -/
  | malformedOptions (e : SyntaxError)
  /-- `rename_all` names no rule. -/
  | unknownRenameRule (text : String)
  /-- The value of the option is not a string literal. -/
  | notStringLiteral (option : String)
  /-- A struct option other than `rename_all`. -/
  | unknownStructOption
  /-- A field option other than `skip` and `rename`. -/
  | unknownFieldOption
  /-- Two registered fields have the same query name. -/
  | duplicateName (name : String)

/-- The text of an error. -/
def DeriveError.message : DeriveError → String
  | .notStruct => "Queryable can only be derived for structs"
  | .unnamedFields => "Queryable can only be derived for structs with named fields"
  | .malformedOptions e => e.message
  | .unknownRenameRule text =>
    "unknown rename rule: '" ++ text ++ "'. Expected one of: PascalCase, camelCase, snake_case"
  | .notStringLiteral option => option ++ " must be a string literal"
  | .unknownStructOption => "unknown query attribute. Expected: rename_all = \"...\""
  | .unknownFieldOption => "unknown query attribute. Expected: skip or rename = \"...\""
  | .duplicateName name => "duplicate query field name '" ++ name ++ "'"

/-- The options of a field. -/
structure FieldOptions where
  skip : Bool := false
  rename : Option String := none

/-- A field in the registry. -/
structure RegisteredField where
  /-- The query name. -/
  name : String
  /-- The field as written in the declaration. -/
  member : String
  /-- The field's type, as text. -/
  ty : String
  /-- The name of the constant that holds the query name. -/
  constant : String

/-- What is derived for a struct: the implemented type with its generics, and the
registered fields. -/
structure Expansion where
  selfType : String
  implGenerics : String
  whereClause : Option String
  fields : List RegisteredField

/-- The type of the constants. -/
def Expansion.constantType : String := "& 'static str"

/-- The trait that the registry implements. -/
def Expansion.traitPath : String := ":: querylink :: Queryable"

/-- The query names, in order. -/
def Expansion.fieldNames (e : Expansion) : List String := e.fields.map (·.name)

/-- The registered field of a query name. -/
def Expansion.field? (e : Expansion) (name : String) : Option RegisteredField :=
  e.fields.find? (·.name == name)

/-- The text of an option's value, which must be a string literal. -/
def stringOption (option : String) : MetaValue → Except DeriveError String
  | .literal text =>
    if Tokens.isStringText text then
      match Literal.stringValue? text with
      | some s => .ok s
      | none => .error (.notStringLiteral option)
    else .error (.notStringLiteral option)
  | .expression _ => .error (.notStringLiteral option)

/-- The meta items of an attribute's argument list: the contents of its delimited group,
read as meta items separated by commas. An attribute without a group has no argument
list. -/
def Attribute.args (a : Attribute) : Except SyntaxError (List Meta) :=
  let style := if a.inner then "#!" else "#"
  match a.item with
  | .word p =>
    .error ⟨"expected attribute arguments in parentheses: " ++ style ++ "[" ++ p.toText ++
      "(...)]", false⟩
  | .nameValue p _ =>
    .error ⟨"expected parentheses: " ++ style ++ "[" ++ p.toText ++ "(...)]", false⟩
  | .list _ ts =>
    Reader.runAll (do
      match (← Grammar.readAll .metaItems).form with
      | .metaItems list => pure list
      | _ => pure []) ts

/-- The meta items of the first `#[query(...)]` attribute, if there is one. -/
def queryOptions (attrs : List Attribute) : Except DeriveError (List Meta) :=
  match Attribute.find? attrs "query" with
  | none => .ok []
  | some a =>
    match a.args with
    | .ok ms => .ok ms
    | .error e => .error (.malformedOptions e)

/-- The rename rule of a struct. -/
def structRule (attrs : List Attribute) : Except DeriveError (Option RenameRule) := do
  let metas ← queryOptions attrs
  metas.foldlM (fun _ m =>
    match m with
    | .nameValue p v =>
      if p.isIdent "rename_all" then do
        let text ← stringOption "rename_all" v
        match RenameRule.ofText? text with
        | some r => pure (some r)
        | none => throw (.unknownRenameRule text)
      else throw .unknownStructOption
    | _ => throw .unknownStructOption) none

/-- The options of a field. -/
def fieldOptions (attrs : List Attribute) : Except DeriveError FieldOptions := do
  let metas ← queryOptions attrs
  metas.foldlM (fun opts m =>
    match m with
    | .word p =>
      if p.isIdent "skip" then pure { opts with skip := true } else throw .unknownFieldOption
    | .nameValue p v =>
      if p.isIdent "rename" then do
        let s ← stringOption "rename" v
        pure { opts with rename := some s }
      else throw .unknownFieldOption
    | .list .. => throw .unknownFieldOption) {}

/-- A name without the `r#` of a raw identifier. -/
def unraw (name : String) : String :=
  if name.startsWith "r#" then String.ofList (name.toList.drop 2) else name

/-- The query name of a field. -/
def queryName (rule : Option RenameRule) (opts : FieldOptions) (own : String) : String :=
  match opts.rename, rule with
  | some s, _ => s
  | none, some r => r.apply own
  | none, none => own

/-- Adds a field to the registered ones, unless it is skipped; a query name already taken
is an error. -/
def register (rule : Option RenameRule) (acc : List RegisteredField) (f : FieldDecl) :
    Except DeriveError (List RegisteredField) := do
  let opts ← fieldOptions f.attrs
  if opts.skip then return acc
  let member := f.name.getD ""
  let own := unraw member
  let name := queryName rule opts own
  if acc.any (·.name == name) then throw (.duplicateName name)
  return acc ++ [⟨name, member, renderList f.ty, screamingSnake own⟩]

/-- The registry derived from a declaration. -/
def Declaration.expand (d : Declaration) : Except DeriveError Expansion := do
  let fields ← match d.shape with
    | .struct (.named fs) => pure fs
    | .struct _ => throw .unnamedFields
    | _ => throw .notStruct
  let rule ← structRule d.attrs
  let registered ← fields.foldlM (register rule) []
  return ⟨d.generics.typeText d.name, d.generics.implText, d.generics.whereText?, registered⟩

end Derive

end RecordQuery
