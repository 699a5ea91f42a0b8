import DocQuery.Calendar
import DocQuery.Clause.Change
import DocQuery.Clause.Condition
import DocQuery.Clause.Direction
import DocQuery.Clause.Directive
import DocQuery.Clause.Envelope
import DocQuery.Clause.Like
import DocQuery.Clause.Predicates
import DocQuery.Clause.Updates
import DocQuery.Clause.WriteDefaults
import DocQuery.Cursor
import DocQuery.Document.Path
import DocQuery.Failure
import DocQuery.Filter
import DocQuery.Filter.Distance
import DocQuery.Json.Direct
import DocQuery.Json.Extended
import DocQuery.Json.Number
import DocQuery.Json.Parser
import DocQuery.Json.Quoted
import DocQuery.Json.Sorted
import DocQuery.Json.Tree
import DocQuery.Json.Writer
import DocQuery.LogPlan
import DocQuery.Number.Binary64
import DocQuery.Number.Decimal128
import DocQuery.Number.Layout
import DocQuery.Number.Reading
import DocQuery.Number.Rounding
import DocQuery.Number.Shortest
import DocQuery.ObjectId
import DocQuery.Operation
import DocQuery.Pattern
import DocQuery.Pattern.Automaton
import DocQuery.Pattern.ByteRanges
import DocQuery.Pattern.CharacterSet
import DocQuery.Pattern.Expression
import DocQuery.Pattern.Matching
import DocQuery.Pattern.Meaning
import DocQuery.Pattern.Parser
import DocQuery.Pattern.Reader
import DocQuery.Pattern.Tree
import DocQuery.Projection
import DocQuery.Proofs.Outcome
import DocQuery.Proofs.QueryBuilder.Failure
import DocQuery.Proofs.Store.DuplicateKeys
import DocQuery.Proofs.Store.Effect
import DocQuery.Proofs.Store.Guard
import DocQuery.Proofs.Store.Intention
import DocQuery.Proofs.Store.Promise
import DocQuery.Proofs.Store.Run
import DocQuery.Proofs.Store.Separation
import DocQuery.Proofs.Store.Soundness
import DocQuery.Proofs.Update.WellFormed
import DocQuery.Proofs.Value.Agreement
import DocQuery.Proofs.Value.WellFormed
import DocQuery.QueryBuilder
import DocQuery.Request
import DocQuery.Settings
import DocQuery.Settings.Reader
import DocQuery.Sorting
import DocQuery.Store.Collection
import DocQuery.Store.Command
import DocQuery.Store.Error
import DocQuery.Store.Index
import DocQuery.Store.Interface
import DocQuery.Store.Memory
import DocQuery.Text.Base64
import DocQuery.Text.Blank
import DocQuery.Text.Digits
import DocQuery.Text.Pieces
import DocQuery.Toml.Parser
import DocQuery.Toml.Quoted
import DocQuery.Toml.Scalar
import DocQuery.Toml.Tree
import DocQuery.Trace
import DocQuery.Unicode.Age
import DocQuery.Unicode.Category
import DocQuery.Unicode.CodeSet
import DocQuery.Unicode.Folding
import DocQuery.Unicode.Named
import DocQuery.Unicode.Property
import DocQuery.Unicode.Runs
import DocQuery.Unicode.Script
import DocQuery.Unicode.Segmentation
import DocQuery.Update
import DocQuery.Value
import DocQuery.Value.Equality
import DocQuery.Value.Number
import DocQuery.Value.Order
import DocQuery.Value.Text
import DocQuery.Proofs.Store.Idle
import DocQuery.Proofs.Store.Selection
import DocQuery.Proofs.QueryBuilder.Exchange
import DocQuery.Proofs.Store.Rewriting
import DocQuery.Proofs.Update.Identifier
import DocQuery.Proofs.Value.Order
import DocQuery.Proofs.Store.Provenance
import DocQuery.Proofs.Update.Setting
import DocQuery.Proofs.Store.Upsert
import DocQuery.Proofs.Sorting
import DocQuery.Proofs.Cursor
import DocQuery.Proofs.Grouping
import DocQuery.Proofs.QueryBuilder.Paging
import DocQuery.Proofs.Clause.Directive
import DocQuery.Proofs.Clause.Conditions
import DocQuery.Proofs.Clause.Changes
import DocQuery.Proofs.Filter.Failure
import DocQuery.Proofs.Update.Failure
import DocQuery.Proofs.Filter.Evaluation
import DocQuery.Proofs.Filter.Rearrangement
import DocQuery.Proofs.Filter.Membership
import DocQuery.Proofs.QueryBuilder.Deletion
import DocQuery.Proofs.Update.Accumulation
import DocQuery.Proofs.Document.Removal
import DocQuery.Proofs.Update.Renaming
import DocQuery.Proofs.Update.Arrays
import DocQuery.Proofs.Filter.Recast
import DocQuery.Proofs.Projection
import DocQuery.Proofs.Recast
import DocQuery.Proofs.Update.Amount
import DocQuery.Proofs.Update.Increments
import DocQuery.Proofs.Value.Indistinct
import DocQuery.Proofs.Store.Report
import DocQuery.Proofs.Document.Nesting
import DocQuery.Proofs.Projection.Selection
import DocQuery.Proofs.Projection.Identifier
import DocQuery.Proofs.Value.Kind
import DocQuery.Proofs.Filter.Range
import DocQuery.Proofs.Number.Rounding
import DocQuery.Proofs.Store.Integers
import DocQuery.Proofs.Sorting.Lexicographic
import DocQuery.Proofs.Clause.Sorts
import DocQuery.Proofs.QueryBuilder.Sorted
import DocQuery.Proofs.Filter.Literal
import DocQuery.Proofs.Store.IndexName
import DocQuery.Proofs.Store.IndexRemoval
import DocQuery.Proofs.Filter.Flaw
import DocQuery.Proofs.Store.FlawedFilter
import DocQuery.Proofs.Pattern.Spans
import DocQuery.Proofs.Pattern.Building
import DocQuery.Proofs.Pattern.Size
import DocQuery.Proofs.Clause.Escaped
import DocQuery.Proofs.Clause.Like
import DocQuery.Proofs.Unicode.CodeSet
import DocQuery.Proofs.Clause.Unescaped
import DocQuery.Proofs.Cursor.Reading
import DocQuery.Proofs.Text.Pieces
import DocQuery.Proofs.Settings
import DocQuery.Proofs.Clause.Page
import DocQuery.Proofs.QueryBuilder.Told
import DocQuery.Proofs.Filter.Identifier
import DocQuery.Proofs.Store.Retrieval
import DocQuery.Proofs.Trace
import DocQuery.Proofs.QueryBuilder.Traced
import DocQuery.Proofs.QueryBuilder.Safety
import DocQuery.Proofs.Json.Number
import DocQuery.Proofs.Json.Quoted
import DocQuery.Proofs.Json.Simple
import DocQuery.Proofs.Document.NameOrder
import DocQuery.Proofs.Json.Reread
import DocQuery.Proofs.Sorting.Fields
import DocQuery.Proofs.Store.Naming
import DocQuery.Proofs.QueryBuilder.Reread
