import TypedSql.Kind
import TypedSql.Text.Blank
import TypedSql.Text.Identifier
import TypedSql.Text.Quoted
import TypedSql.Text.UpperCase
import TypedSql.Number.FloatFormat
import TypedSql.Number.Binary
import TypedSql.Number.Shortest
import TypedSql.Number.RealText
import TypedSql.Cell
import TypedSql.FieldType
import TypedSql.Calendar.DateTimeText
import TypedSql.Codec.Row
import TypedSql.Sql.Lexeme
import TypedSql.Schema.Table
import TypedSql.Expr.Builder
import TypedSql.Schema.Registry
import TypedSql.Query.Lazy
import TypedSql.Query.Outline
import TypedSql.Statement.Basic
import TypedSql.Record.Derive
import TypedSql.Schema.Rows
import TypedSql.Connection.Url
import TypedSql.Store.Table
import TypedSql.Store.Operators
import TypedSql.Store.Run
import TypedSql.Database
import TypedSql.Proofs.Computation
import TypedSql.Proofs.Query.Compile
import TypedSql.Proofs.Schema.Accepted
import TypedSql.Proofs.Schema.Reachable
import TypedSql.Proofs.Number.RealForm
import TypedSql.Proofs.Sql.Lexer
import TypedSql.Proofs.Sql.Pieces
import TypedSql.Proofs.Sql.WriteText
import TypedSql.Proofs.Query.Spelling
import TypedSql.Proofs.Query.Placement
import TypedSql.Proofs.Query.Numbering
import TypedSql.Proofs.Query.WellFormed
import TypedSql.Proofs.Query.Binding
import TypedSql.Proofs.Sql.Grammar
import TypedSql.Proofs.Sql.Parser
import TypedSql.Proofs.Query.Rendering
import TypedSql.Proofs.Query.OperatorTree
import TypedSql.Proofs.Number.Arithmetic
import TypedSql.Proofs.Number.Representation
import TypedSql.Proofs.Store.Nulls
import TypedSql.Proofs.Query.Nullability
import TypedSql.Proofs.Query.Tracking
import TypedSql.Proofs.Query.Renaming
import TypedSql.Proofs.Sql.Renumbering
import TypedSql.Proofs.Query.Relocation
import TypedSql.Proofs.Query.Nesting
import TypedSql.Proofs.Store.Names
import TypedSql.Proofs.Store.StoredForm
import TypedSql.Proofs.Store.Creation
import TypedSql.Proofs.Store.Rows
import TypedSql.Proofs.Store.Effects
import TypedSql.Proofs.Store.Regular
import TypedSql.Proofs.Store.Runs
import TypedSql.Proofs.Store.KeyedRows
import TypedSql.Proofs.Statement.Writes
import TypedSql.Proofs.Store.KeyedWrites
import TypedSql.Proofs.Statement.Replacement
import TypedSql.Proofs.Query.Registration
import TypedSql.Proofs.Schema.Runs
import TypedSql.Proofs.Query.Arguments
import TypedSql.Proofs.Sql.CreationText
import TypedSql.Proofs.Statement.Creation
import TypedSql.Proofs.Number.Conversion
import TypedSql.Proofs.Calendar.DateTimeText
import TypedSql.Proofs.Codec.RoundTrip
import TypedSql.Proofs.Store.Paths
import TypedSql.Proofs.Store.Insertion
import TypedSql.Proofs.Codec.StoredRecord
import TypedSql.Proofs.Schema.Validation
import TypedSql.Proofs.Calendar.TextOrder
import TypedSql.Proofs.Codec.TemporalOrder
import TypedSql.Proofs.Sql.Spans
import TypedSql.Proofs.Statement.Clauses
import TypedSql.Proofs.Query.Faults
import TypedSql.Proofs.Query.Blame
import TypedSql.Proofs.Query.Qualification
import TypedSql.Proofs.Sql.Literals
import TypedSql.Proofs.Query.ConstantFilters
import TypedSql.Proofs.Query.NullSources
import TypedSql.Proofs.Query.Ordering
import TypedSql.Proofs.Statement.Insertable
import TypedSql.Proofs.Codec.WrittenForm
import TypedSql.Proofs.Query.Words
import TypedSql.Proofs.Statement.LegalNames
import TypedSql.Proofs.Query.Latch
import TypedSql.Proofs.Record.Attributes
import TypedSql.Proofs.Record.Description
import TypedSql.Proofs.Codec.CellPlaces
import TypedSql.Proofs.Record.ItemOrder
import TypedSql.Proofs.Record.KeyLayout
import TypedSql.Proofs.Record.UnknownItems
import TypedSql.Proofs.Record.DefaultNames
