import SqlClauses.Text.Split
import SqlClauses.Text.Ranges
import SqlClauses.Text.Blank
import SqlClauses.Text.Clip
import SqlClauses.Identifier
import SqlClauses.Literal
import SqlClauses.Column
import SqlClauses.Decimal.Positional
import SqlClauses.Decimal.Shortest
import SqlClauses.Double
import SqlClauses.Value
import SqlClauses.Error
import SqlClauses.Operator
import SqlClauses.Search
import SqlClauses.Filter
import SqlClauses.Join
import SqlClauses.Order
import SqlClauses.Limit
import SqlClauses.StatementKind
import SqlClauses.Log
import SqlClauses.Query.Basic
import SqlClauses.Query.Clauses
import SqlClauses.Query.Render
import SqlClauses.Query.Call
import SqlClauses.Executor.Basic
import SqlClauses.Executor.Tracer
import SqlClauses.Request.Basic
import SqlClauses.Request.Call
import SqlClauses.Request.Run
import SqlClauses.Text.Unassigned
import SqlClauses.Text.Extending
import SqlClauses.Text.Quoted
import SqlClauses.Text.Bytes
import SqlClauses.Text.Percent
import SqlClauses.Text.Unsigned
import SqlClauses.Settings.Basic
import SqlClauses.Settings.Environment
import SqlClauses.Settings.Document
import SqlClauses.Settings.Shown
import SqlClauses.Settings.Target
import SqlClauses.Settings.Pool
import SqlClauses.Proofs.Interleaving
import SqlClauses.Proofs.Clauses
import SqlClauses.Proofs.WellFormed
import SqlClauses.Proofs.Lowering
import SqlClauses.Proofs.Reachable
import SqlClauses.Proofs.Lexer
import SqlClauses.Proofs.Groups
import SqlClauses.Proofs.Numerals
import SqlClauses.Proofs.Stages
import SqlClauses.Proofs.Rendering
import SqlClauses.Proofs.Tokens
import SqlClauses.Proofs.Reading
import SqlClauses.Proofs.NoInjection
import SqlClauses.Proofs.NormalForm
import SqlClauses.Proofs.Peeling
import SqlClauses.Proofs.Decoding
import SqlClauses.Proofs.Unambiguous
import SqlClauses.Proofs.Failure
import SqlClauses.Proofs.RenderLog
import SqlClauses.Proofs.Executors
import SqlClauses.Proofs.Dispatch
import SqlClauses.Proofs.Transparency
import SqlClauses.Proofs.Arguments
import SqlClauses.Proofs.Growth
import SqlClauses.Proofs.Names
import SqlClauses.Proofs.Refinement
import SqlClauses.Proofs.Grammar
import SqlClauses.Proofs.Legality
import SqlClauses.Proofs.Formula
import SqlClauses.Proofs.Meaning
import SqlClauses.Proofs.Increments
import SqlClauses.Proofs.Embedding
import SqlClauses.Proofs.Aliases
import SqlClauses.Proofs.Tracing
import SqlClauses.Proofs.Quoting
import SqlClauses.Proofs.Columns
import SqlClauses.Proofs.Rows
import SqlClauses.Proofs.Environment
import SqlClauses.Proofs.Secrecy
import SqlClauses.Proofs.Replacement
import SqlClauses.Proofs.Null
import SqlClauses.Proofs.Spelling
