import RecordQuery.Definitions
import RecordQuery.Text.Percent

/-!
# Query strings

Definitions are written as a query string. Each filter is a parameter `KEY[]=TEXT`, where
`TEXT` is the percent-encoded concatenation of field, operator token and value text. The sort
keys follow as one parameter `KEY=F1,F2,…`, each field percent-encoded and preceded by `-`
when it sorts descending. Parameters are joined with `&`. The two keys are configurable.

Decoding drops one leading `?`, splits at `&` (skipping empty parts) and each part at its
first `=`. Key and value are percent-decoded when they contain `%` or `+`, a `+` standing for
a space. A filter text is split at the leftmost operator token, the longest one where several
start at the same place: the field is the trimmed text before it and the value is read from
the text after it. The sort parameter is split at commas; each part is trimmed, a leading run
of `-` and `+` is removed, and the part sorts descending when it started with `-`. Other
parameters are ignored.

Decoding reports `decoded filter F OP VALUE`, `decoded order F DIR` and
`ignoring parameter KEY` as trace lines, after the lines of reading the value.
-/

namespace RecordQuery

/-- The parameter names of a query string. -/
structure QueryKeys where
  filter : String := "filter"
  order : String := "order"

namespace QueryKeys

/-- The parameter name of a filter: the filter key and `[]`. -/
def filterParam (k : QueryKeys) : String := k.filter ++ "[]"

end QueryKeys

namespace Codec

/-- The operators by decreasing token length; among equal lengths, in their fixed order. -/
def tokensByLength : List FilterOperator :=
  [.notMem, .ne, .ge, .le, .has, .notHas, .mem, .notStartsWith, .notEndsWith, .eq, .gt, .lt,
    .startsWith, .endsWith]

/-- The operator whose token starts the text, the longest if several do. -/
def tokenAt (cs : List Char) : Option FilterOperator :=
  tokensByLength.find? fun op => op.token.toList.isPrefixOf cs

/-- Splits a text at its leftmost operator token: the text before, the operator, and the
text after. -/
def findToken : List Char → Option (List Char × FilterOperator × List Char)
  | [] => none
  | c :: rest =>
    match tokenAt (c :: rest) with
    | some op => some ([], op, (c :: rest).drop op.token.length)
    | none => (findToken rest).map fun (pre, op, post) => (c :: pre, op, post)

/-- The filter of a decoded filter text. -/
def decodeFilter (text : String) : Checked FilterDef :=
  match findToken text.toList with
  | none => Checked.fail (.malformedFilter text .noOperatorToken)
  | some (pre, op, post) =>
    let field := String.ofList (Text.trimChars pre)
    if field.isEmpty then Checked.fail (.malformedFilter text .emptyFieldName)
    else Checked.lift (FilterDef.ofText field op (String.ofList post))

/-- Percent-decodes a key or value of a parameter, when it holds `%` or `+`. -/
def decodeComponent (raw : String) : Checked String :=
  if raw.toList.any (fun c => c = '%' || c = '+') then
    let spaced := String.ofList (raw.toList.map fun c => if c = '+' then ' ' else c)
    match Percent.decode spaced with
    | some s => pure s
    | none => Checked.fail (.malformedFilter raw .invalidPercentEncoding)
  else pure raw

/-- The sort keys of a sort parameter's value. -/
def decodeOrders (value : String) : Logged (List OrderDef) :=
  (value.toList.splitOn ',').foldlM (fun acc part => do
    let part := Text.trimChars part
    let field := Text.trimChars (part.dropWhile fun c => c = '-' || c = '+')
    if field.isEmpty then pure acc
    else
      let o : OrderDef := ⟨String.ofList field, part.head? == some '-'⟩
      Logged.trace ("decoded order " ++ o.field ++ " " ++ o.direction.name)
      pure (acc ++ [o])) []

/-- Splits a parameter at its first `=`; without one, the value is empty. -/
def splitParam (p : List Char) : List Char × List Char :=
  (p.takeWhile (· ≠ '='), (p.dropWhile (· ≠ '=')).drop 1)

/-- Adds what one parameter says to the definitions. -/
def decodeParam (keys : QueryKeys) (d : Definitions) (p : List Char) : Checked Definitions := do
  let (rawKey, rawValue) := splitParam p
  let key ← decodeComponent (String.ofList rawKey)
  let value ← decodeComponent (String.ofList rawValue)
  if key == keys.filterParam then
    let f ← decodeFilter value
    Checked.lift (Logged.trace
      ("decoded filter " ++ f.field ++ " " ++ f.op.name ++ " " ++ f.value.toText))
    pure (d.pushFilter f)
  else if key == keys.order then
    let os ← Checked.lift (decodeOrders value)
    pure { d with orders := d.orders ++ os }
  else
    Checked.lift (Logged.trace ("ignoring parameter " ++ key))
    pure d

end Codec

/-- Writes definitions as a query string. -/
def encode (keys : QueryKeys) (d : Definitions) : String :=
  let filters := d.filters.map fun f =>
    keys.filterParam ++ "=" ++ Percent.encode (f.field ++ f.op.token ++ f.valueText)
  let out := "&".intercalate filters
  if d.orders.isEmpty then out
  else
    let orders := d.orders.map fun o => Percent.encode ((if o.reversed then "-" else "") ++ o.field)
    (if out.isEmpty then "" else out ++ "&") ++ keys.order ++ "=" ++ ",".intercalate orders

/-- Reads definitions from a query string, reporting what was decoded. -/
def decode (keys : QueryKeys) (query : String) : Checked Definitions :=
  let cs := match query.toList with
    | '?' :: r => r
    | r => r
  let params := (cs.splitOn '&').filter (!·.isEmpty)
  params.foldlM (Codec.decodeParam keys) {}

end RecordQuery
