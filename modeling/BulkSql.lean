import BulkSql.Text.Blank
import BulkSql.Syntax.Keyword
import BulkSql.Syntax.Failure
import BulkSql.Syntax.Layout
import BulkSql.Syntax.Reader
import BulkSql.Syntax.Tree
import BulkSql.Syntax.Lexeme
import BulkSql.Syntax.ParseError
import BulkSql.Syntax.TokenList
import BulkSql.Syntax.Expression
import BulkSql.Syntax.Statement
import BulkSql.Bulk.Form
import BulkSql.Numbering
import BulkSql.Value.Decimal
import BulkSql.Value.Moment
import BulkSql.Value.SqlType
import BulkSql.Value.SqlValue
import BulkSql.Text.Quoted
import BulkSql.Text.CodeTable
import BulkSql.Text.Percent
import BulkSql.Url.Address
import BulkSql.Url.Basic
import BulkSql.Error
import BulkSql.Settings
import BulkSql.Batch.Bindings
import BulkSql.Batch.ColumnBatch
import BulkSql.Batch.Request
import BulkSql.Client
import BulkSql.Deferred.Operations
import BulkSql.Deferred.Request
import BulkSql.Postgres.Numeric
import BulkSql.Postgres.Parameter
import BulkSql.Postgres.Slots
import BulkSql.Postgres.Statement
import BulkSql.Postgres.ConnectionOptions
import BulkSql.Postgres.ConnectionString
import BulkSql.Proofs.Batch.Pending
import BulkSql.Proofs.Batch.TypeFamilies
import BulkSql.Proofs.Batch.RecordRows
import BulkSql.Proofs.Batch.PlainRows
import BulkSql.Proofs.Batch.ColumnTypes
import BulkSql.Proofs.Postgres.Slots
import BulkSql.Proofs.Postgres.WireArrays
import BulkSql.Proofs.Postgres.ColumnArrays
import BulkSql.Proofs.Deferred.Building
import BulkSql.Proofs.Deferred.Execution
import BulkSql.Proofs.Deferred.FailedPrepare
import BulkSql.Proofs.Deferred.Voiding
import BulkSql.Proofs.Syntax.Lexemes
import BulkSql.Proofs.Syntax.Spelling
import BulkSql.Proofs.Syntax.Grammar
import BulkSql.Proofs.Syntax.Levels
import BulkSql.Proofs.Syntax.Completeness
import BulkSql.Proofs.Syntax.Soundness
import BulkSql.Proofs.Syntax.Atoms
import BulkSql.Proofs.Syntax.Printing
import BulkSql.Proofs.Syntax.Statements
import BulkSql.Proofs.Syntax.Parsing
import BulkSql.Proofs.Syntax.Endings
import BulkSql.Proofs.Syntax.Forms
import BulkSql.Proofs.Syntax.Symbols
import BulkSql.Proofs.Syntax.RoundTrip
import BulkSql.Proofs.Syntax.Tokens
import BulkSql.Proofs.Syntax.Readings
import BulkSql.Proofs.Syntax.FromTokens
import BulkSql.Proofs.Bulk.Replacement
import BulkSql.Proofs.Bulk.Rendering
import BulkSql.Proofs.Bulk.UpdateForm
import BulkSql.Proofs.Bulk.RowForm
import BulkSql.Proofs.Bulk.Totality
import BulkSql.Proofs.Bulk.LayoutFree
import BulkSql.Proofs.Bulk.Yield
import BulkSql.Proofs.Bulk.Leafwise
import BulkSql.Proofs.Bulk.JoinedText
import BulkSql.Proofs.Bulk.Distinct
import BulkSql.Proofs.Numbering.Scanning
import BulkSql.Proofs.Bulk.Numbered
import BulkSql.Proofs.Deferred.Serving
import BulkSql.Proofs.Deferred.Lifecycle
import BulkSql.Proofs.Deferred.Transparency
import BulkSql.Proofs.Bulk.Capture
import BulkSql.Proofs.Numbering.Agreement
import BulkSql.Proofs.Deferred.Detection
import BulkSql.Proofs.Syntax.Selections
import BulkSql.Proofs.Bulk.Finality
import BulkSql.Proofs.Syntax.Coverage
import BulkSql.Proofs.Text.Utf8
import BulkSql.Proofs.Text.Forms
import BulkSql.Proofs.Url.Marks
import BulkSql.Proofs.Url.Stripping
import BulkSql.Proofs.Url.Settings
import BulkSql.Proofs.Bulk.References
import BulkSql.Proofs.Syntax.Gaps
import BulkSql.Proofs.Syntax.Munch
import BulkSql.Proofs.Syntax.Lossless
import BulkSql.Proofs.Syntax.Respaced
import BulkSql.Proofs.Text.Offsets
import BulkSql.Proofs.Syntax.TokenPlaces
import BulkSql.Proofs.Numbering.Patterns
import BulkSql.Proofs.Numbering.Renumbered
import BulkSql.Proofs.Batch.Requests
import BulkSql.Proofs.Batch.RowOrder
import BulkSql.Proofs.Postgres.Decimals
import BulkSql.Proofs.Postgres.Integers
import BulkSql.Proofs.Text.Lines
import BulkSql.Proofs.Syntax.Furthest
import BulkSql.Proofs.Syntax.Refusals
import BulkSql.Proofs.Syntax.GrammarRefusals
import BulkSql.Proofs.Syntax.ErrorPlaces
import BulkSql.Proofs.Syntax.OffendingTokens
import BulkSql.Proofs.Syntax.RunOnKeywords
import BulkSql.Proofs.Batch.RowGaps
import BulkSql.Proofs.Postgres.Loading
import BulkSql.Proofs.Syntax.Expectations
import BulkSql.Proofs.Syntax.Progress
import BulkSql.Proofs.Syntax.Repetitions
import BulkSql.Proofs.Syntax.GrammarProgress
import BulkSql.Proofs.Syntax.Termination
