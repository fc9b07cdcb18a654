import RecordSql.Binary64.Basic
import RecordSql.Binary64.Decimal
import RecordSql.Declaration.Attribute
import RecordSql.Declaration.Basic
import RecordSql.Declaration.Derive
import RecordSql.Dialect
import RecordSql.Document.Basic
import RecordSql.Document.Number
import RecordSql.Document.Parser
import RecordSql.Document.Printer
import RecordSql.Error
import RecordSql.Event
import RecordSql.FieldType
import RecordSql.Handler
import RecordSql.Ident
import RecordSql.Predicate.Basic
import RecordSql.Predicate.Evaluate
import RecordSql.Predicate.Operand
import RecordSql.Predicate.Truth
import RecordSql.Proofs.Binary64.Rounding
import RecordSql.Proofs.Declaration.Attributes
import RecordSql.Proofs.Declaration.Derivation
import RecordSql.Proofs.FieldType.ReadBack
import RecordSql.Proofs.Handler.Inverse
import RecordSql.Proofs.Predicate.Comparison
import RecordSql.Proofs.Predicate.Failure
import RecordSql.Proofs.Predicate.Joined
import RecordSql.Proofs.Predicate.Mirrored
import RecordSql.Proofs.Predicate.Opposite
import RecordSql.Proofs.Predicate.RowComparison
import RecordSql.Proofs.Predicate.TextOperand
import RecordSql.Proofs.Sql.Acceptance
import RecordSql.Proofs.Sql.Agreement
import RecordSql.Proofs.Sql.Compilation
import RecordSql.Proofs.Sql.Correspondence
import RecordSql.Proofs.Sql.FirstUse
import RecordSql.Proofs.Sql.Grammar
import RecordSql.Proofs.Sql.Issuing
import RecordSql.Proofs.Sql.LateBinding
import RecordSql.Proofs.Sql.Leaf
import RecordSql.Proofs.Sql.ListText
import RecordSql.Proofs.Sql.Listing
import RecordSql.Proofs.Sql.LiteralComparison
import RecordSql.Proofs.Sql.Matching
import RecordSql.Proofs.Sql.Mirrored
import RecordSql.Proofs.Sql.Naming
import RecordSql.Proofs.Sql.Outcome
import RecordSql.Proofs.Sql.Plan
import RecordSql.Proofs.Sql.Shortened
import RecordSql.Proofs.Sql.Writable
import RecordSql.Proofs.Store.Acceptance
import RecordSql.Proofs.Store.Checks
import RecordSql.Proofs.Store.Failure
import RecordSql.Proofs.Store.FlatStore
import RecordSql.Proofs.Store.Flattened
import RecordSql.Proofs.Store.Identities
import RecordSql.Proofs.Store.Keys
import RecordSql.Proofs.Store.Matching
import RecordSql.Proofs.Store.Missing
import RecordSql.Proofs.Store.Overflow
import RecordSql.Proofs.Store.Reachable
import RecordSql.Proofs.Store.Replay
import RecordSql.Proofs.Store.RowOrder
import RecordSql.Proofs.Store.Simulation
import RecordSql.Proofs.Table.Names
import RecordSql.Proofs.Table.Resolved
import RecordSql.Proofs.Table.Rules
import RecordSql.Proofs.Table.Stored
import RecordSql.Proofs.Table.WellFormed
import RecordSql.Proofs.Text.Characters
import RecordSql.Proofs.Text.Quoted
import RecordSql.Proofs.Timestamp.Calendar
import RecordSql.Proofs.Timestamp.Written
import RecordSql.Proofs.Uuid.Written
import RecordSql.Record
import RecordSql.Registry
import RecordSql.Schema
import RecordSql.SemanticType
import RecordSql.Sql.Command
import RecordSql.Sql.Compile
import RecordSql.Sql.Expr
import RecordSql.Sql.Log
import RecordSql.Sql.Placeholder
import RecordSql.Sql.Statement
import RecordSql.Store.Basic
import RecordSql.Store.Buckets
import RecordSql.Store.Change
import RecordSql.Table
import RecordSql.Text.Digits
import RecordSql.Text.Escaped
import RecordSql.Text.LetterCase
import RecordSql.Text.LetterTables
import RecordSql.Text.Quoted
import RecordSql.Text.Unprintable
import RecordSql.Text.Words
import RecordSql.Timestamp.Basic
import RecordSql.Timestamp.Parser
import RecordSql.Timestamp.Printer
import RecordSql.Uuid.Basic
import RecordSql.Uuid.Parser
import RecordSql.Value
import RecordSql.ValueText
