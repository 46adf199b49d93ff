import RecordQuery.Binary.Binary64
import RecordQuery.Binary.Format
import RecordQuery.Binary.Read
import RecordQuery.Binary.Shortest
import RecordQuery.Calendar.Date
import RecordQuery.Calendar.Read
import RecordQuery.Calendar.Timestamp
import RecordQuery.Codec
import RecordQuery.Compile
import RecordQuery.Condition
import RecordQuery.Definitions
import RecordQuery.Derive.Attribute
import RecordQuery.Derive.Declaration
import RecordQuery.Derive.Expansion
import RecordQuery.Derive.Grammar.Blocks
import RecordQuery.Derive.Grammar.Exprs
import RecordQuery.Derive.Grammar.Meta
import RecordQuery.Derive.Grammar.Patterns
import RecordQuery.Derive.Grammar.Read
import RecordQuery.Derive.Grammar.Types
import RecordQuery.Derive.Lex
import RecordQuery.Derive.Phrase
import RecordQuery.Derive.Reader
import RecordQuery.Derive.Rename
import RecordQuery.Derive.Token
import RecordQuery.Duration
import RecordQuery.Error
import RecordQuery.Log
import RecordQuery.Number.Decimal
import RecordQuery.Number.Int128
import RecordQuery.Operator
import RecordQuery.Order
import RecordQuery.Proofs.Binary.Round
import RecordQuery.Proofs.Checked
import RecordQuery.Proofs.Codec.Decode
import RecordQuery.Proofs.Codec.Decoded
import RecordQuery.Proofs.Codec.Reencode
import RecordQuery.Proofs.Codec.RoundTrip
import RecordQuery.Proofs.Codec.Token
import RecordQuery.Proofs.Compile.Apply
import RecordQuery.Proofs.Number.Digits
import RecordQuery.Proofs.Sort.Key
import RecordQuery.Proofs.Sort.Stable
import RecordQuery.Proofs.Text.Percent
import RecordQuery.Proofs.Text.Trim
import RecordQuery.Proofs.Value.Equal
import RecordQuery.Proofs.Value.Print
import RecordQuery.Proofs.Value.Read
import RecordQuery.Registry.FieldType
import RecordQuery.Registry.Overrides
import RecordQuery.Registry.Schema
import RecordQuery.Sample.Record
import RecordQuery.Text.Chars
import RecordQuery.Text.Case
import RecordQuery.Text.CaseTable
import RecordQuery.Text.CasedTable
import RecordQuery.Text.IdentTable
import RecordQuery.Text.Percent
import RecordQuery.Text.Quote
import RecordQuery.Uuid
import RecordQuery.Value.Basic
import RecordQuery.Value.Elements
import RecordQuery.Value.Kind
import RecordQuery.Value.Parse
import RecordQuery.Proofs.Binary.Shortest
import RecordQuery.Proofs.Binary.Text
import RecordQuery.Proofs.Compile.Deferred
import RecordQuery.Proofs.Compile.Override
import RecordQuery.Proofs.Derive.Registry
import RecordQuery.Proofs.Value.Readers
import RecordQuery.Proofs.Calendar.Text
import RecordQuery.Proofs.Value.ReadBack
import RecordQuery.Proofs.Value.Scalar
import RecordQuery.Proofs.Value.ArrayText
import RecordQuery.Proofs.Value.ArrayRead
import RecordQuery.Proofs.Compile.Literal
import RecordQuery.Proofs.Codec.Selection
import RecordQuery.Proofs.Compile.Negation
import RecordQuery.Proofs.Binary.Order
import RecordQuery.Proofs.Sort.Laws
import RecordQuery.Proofs.Binary.Nearest
import RecordQuery.Proofs.Compile.Mixed
import RecordQuery.Proofs.Compile.Trichotomy
import RecordQuery.Proofs.Compile.Membership
import RecordQuery.Proofs.Compile.ExactText
import RecordQuery.Proofs.Compile.Piecewise
import RecordQuery.Proofs.Codec.Join
import RecordQuery.Proofs.Value.DurationGrammar
import RecordQuery.Proofs.Derive.Constants
import RecordQuery.Proofs.Derive.FirstAttribute
import RecordQuery.Proofs.Value.Homogeneous
import RecordQuery.Proofs.Binary.Widen
import RecordQuery.Proofs.Registry.Conformance
