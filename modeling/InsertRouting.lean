import InsertRouting.Catalog.Basic
import InsertRouting.Catalog.Schema
import InsertRouting.Clause.Expression
import InsertRouting.Clause.Set
import InsertRouting.Config.Basic
import InsertRouting.Config.Check
import InsertRouting.Config.Error
import InsertRouting.Config.Holder
import InsertRouting.Config.Parse
import InsertRouting.Config.Reader
import InsertRouting.Config.Writer
import InsertRouting.Insert.Condition
import InsertRouting.Insert.Error
import InsertRouting.Insert.Fill
import InsertRouting.Insert.GeneratedKey
import InsertRouting.Insert.Statement
import InsertRouting.Insert.Token
import InsertRouting.Insert.ValueCount
import InsertRouting.Log
import InsertRouting.Number.Decimal
import InsertRouting.Number.Double
import InsertRouting.Number.Double.Nearest
import InsertRouting.Number.Double.Shortest
import InsertRouting.Proofs.Clause.Span
import InsertRouting.Proofs.Config.Acceptance
import InsertRouting.Proofs.Config.Checked
import InsertRouting.Proofs.Config.Files
import InsertRouting.Proofs.Config.Holder
import InsertRouting.Proofs.Config.Judgement
import InsertRouting.Proofs.Config.Order
import InsertRouting.Proofs.Config.Overlap
import InsertRouting.Proofs.Config.Reading
import InsertRouting.Proofs.Config.RoundTrip
import InsertRouting.Proofs.Config.Schema
import InsertRouting.Proofs.Data.Counter
import InsertRouting.Proofs.Data.Related
import InsertRouting.Proofs.Insert.Alignment
import InsertRouting.Proofs.Insert.BoundRow
import InsertRouting.Proofs.Insert.Comparison
import InsertRouting.Proofs.Insert.Contribution
import InsertRouting.Proofs.Insert.Effect
import InsertRouting.Proofs.Insert.Independence
import InsertRouting.Proofs.Insert.Pairing
import InsertRouting.Proofs.Insert.ParameterCount
import InsertRouting.Proofs.Insert.Refusal
import InsertRouting.Proofs.Insert.Session
import InsertRouting.Proofs.Insert.Shift
import InsertRouting.Proofs.Insert.SuppliedKeys
import InsertRouting.Proofs.Number.Comparison
import InsertRouting.Proofs.Sharding.Isolation
import InsertRouting.Proofs.Sharding.Lookup
import InsertRouting.Proofs.Sharding.Spelling
import InsertRouting.Proofs.Sharding.ValueCount
import InsertRouting.Proofs.Text.Boundary
import InsertRouting.Proofs.Text.LetterCase
import InsertRouting.Proofs.Text.Lowercase
import InsertRouting.Proofs.Text.Quoted
import InsertRouting.Proofs.Text.Shift
import InsertRouting.Proofs.Text.Slice
import InsertRouting.Proofs.Toml.Sections
import InsertRouting.Proofs.Toml.Written
import InsertRouting.Sharding.Encryptor
import InsertRouting.Sharding.Rule
import InsertRouting.Sharding.Rules
import InsertRouting.Sharding.Tables
import InsertRouting.Sql.Column
import InsertRouting.Sql.Expression
import InsertRouting.Sql.QuoteStyle
import InsertRouting.Sql.Scalar
import InsertRouting.Text.AsciiCase
import InsertRouting.Text.Escaped
import InsertRouting.Text.Lowercase
import InsertRouting.Text.Offset
import InsertRouting.Text.Property.CaseIgnorable
import InsertRouting.Text.Property.Cased
import InsertRouting.Text.Property.GraphemeExtend
import InsertRouting.Text.Property.LowercaseMapping
import InsertRouting.Text.Property.Ranges
import InsertRouting.Text.Property.Unprintable
import InsertRouting.Text.Quoted
import InsertRouting.Toml.Cursor
import InsertRouting.Toml.DateTime
import InsertRouting.Toml.Document
import InsertRouting.Toml.Node
import InsertRouting.Toml.Number
import InsertRouting.Toml.Strings
import InsertRouting.Toml.Tree
import InsertRouting.Toml.Value
import InsertRouting.Toml.Writer
