import FilterSql.Assignment
import FilterSql.Binary64.Basic
import FilterSql.Binary64.Shortest
import FilterSql.Binary64.Text
import FilterSql.Cache
import FilterSql.Clause.Basic
import FilterSql.Clause.Resolve
import FilterSql.Column
import FilterSql.CommandLine.Arguments
import FilterSql.CommandLine.Help
import FilterSql.CommandLine.Run
import FilterSql.Compiler
import FilterSql.Condition.Basic
import FilterSql.Condition.Reader
import FilterSql.Config
import FilterSql.DatabaseUrl
import FilterSql.DateTime
import FilterSql.Descriptor.Basic
import FilterSql.Descriptor.Reader
import FilterSql.Dialect
import FilterSql.Engine
import FilterSql.Error
import FilterSql.Exec
import FilterSql.Fragment
import FilterSql.Json.Basic
import FilterSql.Json.Mismatch
import FilterSql.Json.Reader
import FilterSql.Json.Text
import FilterSql.Log
import FilterSql.Main
import FilterSql.Output
import FilterSql.Output.Text
import FilterSql.Payload
import FilterSql.Postgres.Argument
import FilterSql.Postgres.Executor
import FilterSql.Postgres.Numeric
import FilterSql.Postgres.Row
import FilterSql.Request
import FilterSql.Sigils
import FilterSql.Statement
import FilterSql.Table
import FilterSql.Template
import FilterSql.Text.Alphanumeric
import FilterSql.Text.Blank
import FilterSql.Text.Quoted
import FilterSql.Text.Unshown
import FilterSql.Text.Upper
import FilterSql.Text.Word
import FilterSql.Toml.Basic
import FilterSql.Toml.Reader
import FilterSql.Toml.Scalar
import FilterSql.Value.Basic
import FilterSql.Value.Json
import FilterSql.Value.Literal
import FilterSql.Value.Text
import FilterSql.Word64
import FilterSql.WriteScan
import FilterSql.Proofs.Lookup
import FilterSql.Proofs.Filter
import FilterSql.Proofs.Plan
import FilterSql.Proofs.Fragment
import FilterSql.Proofs.Column
import FilterSql.Proofs.Placeholder.Filter
import FilterSql.Proofs.Placeholder.Payload
import FilterSql.Proofs.Request
import FilterSql.Proofs.Placeholder.Discipline
import FilterSql.Proofs.Outline
import FilterSql.Proofs.Inline
import FilterSql.Proofs.Pruning
import FilterSql.Proofs.History
import FilterSql.Proofs.Listing
import FilterSql.Proofs.FilteredWrite
import FilterSql.Proofs.Deferred
import FilterSql.Proofs.Rewriting
import FilterSql.Proofs.Evaluated
import FilterSql.Proofs.Literal
import FilterSql.Proofs.Engine
import FilterSql.Proofs.Accounting
import FilterSql.Proofs.Dialects
import FilterSql.Proofs.Flaw
import FilterSql.Proofs.Fetching
import FilterSql.Proofs.Members
import FilterSql.Proofs.Document
import FilterSql.Proofs.Mention
import FilterSql.Proofs.SortToken
import FilterSql.Proofs.Localized
import FilterSql.Proofs.Recall
import FilterSql.Proofs.ListKey
import FilterSql.Proofs.Search
import FilterSql.Proofs.Places
import FilterSql.Proofs.Entries
import FilterSql.Proofs.ReturnedKey
import FilterSql.Proofs.Words
import FilterSql.Proofs.WriteLiteral
import FilterSql.Proofs.QueryKind
import FilterSql.Proofs.Filled
import FilterSql.Proofs.Rendering
import FilterSql.Proofs.MarkedWords
import FilterSql.Proofs.Moments
import FilterSql.Proofs.Cells
import FilterSql.Proofs.Writing
import FilterSql.Proofs.Alignment
import FilterSql.Proofs.SigilKeys
import FilterSql.Proofs.Conversion
