import TypedQuery.Calendar.Date
import TypedQuery.Calendar.Reader
import TypedQuery.Calendar.Timestamp
import TypedQuery.DataType
import TypedQuery.Dict
import TypedQuery.Eval.Basic
import TypedQuery.Eval.Error
import TypedQuery.Eval.Operators
import TypedQuery.Eval.Sequence
import TypedQuery.Expr.Basic
import TypedQuery.Expr.Bound
import TypedQuery.Expr.Display
import TypedQuery.Expr.Parameters
import TypedQuery.Expr.Type
import TypedQuery.Filter.Clause
import TypedQuery.Filter.Issue
import TypedQuery.Form.Expr
import TypedQuery.Form.Part
import TypedQuery.Form.Request
import TypedQuery.Form.Schema
import TypedQuery.Form.Type
import TypedQuery.Form.Value
import TypedQuery.Json.Basic
import TypedQuery.Json.Decode
import TypedQuery.Json.Printer
import TypedQuery.Json.Reader
import TypedQuery.Number.Decimal
import TypedQuery.Number.FloatText
import TypedQuery.Number.Integer
import TypedQuery.Number.Shortest
import TypedQuery.Plan.Arguments
import TypedQuery.Plan.Compiler
import TypedQuery.Plan.Error
import TypedQuery.Plan.Field
import TypedQuery.Plan.Mutation
import TypedQuery.Plan.Path
import TypedQuery.Plan.Predicate
import TypedQuery.Plan.Shaping
import TypedQuery.Proofs.Calendar.WrittenForm
import TypedQuery.Proofs.Dict
import TypedQuery.Proofs.Eval.Bound
import TypedQuery.Proofs.Eval.Constants
import TypedQuery.Proofs.Eval.Coverage
import TypedQuery.Proofs.Eval.Extension
import TypedQuery.Proofs.Eval.Inlining
import TypedQuery.Proofs.Eval.Locality
import TypedQuery.Proofs.Eval.Nesting
import TypedQuery.Proofs.Eval.Outcome
import TypedQuery.Proofs.Eval.Sequence
import TypedQuery.Proofs.Eval.Sorting
import TypedQuery.Proofs.Eval.Substitution
import TypedQuery.Proofs.Except
import TypedQuery.Proofs.Expr.Expansion
import TypedQuery.Proofs.Expr.Free
import TypedQuery.Proofs.Expr.Hygiene
import TypedQuery.Proofs.Expr.Induction
import TypedQuery.Proofs.Expr.Reparenting
import TypedQuery.Proofs.Expr.Replacement
import TypedQuery.Proofs.Expr.Sites
import TypedQuery.Proofs.Expr.Typing
import TypedQuery.Proofs.FieldPath
import TypedQuery.Proofs.Json.Equality
import TypedQuery.Proofs.Json.WrittenForm
import TypedQuery.Proofs.Number.DecimalFloat
import TypedQuery.Proofs.Number.Digits
import TypedQuery.Proofs.Number.DocumentText
import TypedQuery.Proofs.Number.FloatOrder
import TypedQuery.Proofs.Number.Rounding
import TypedQuery.Proofs.Number.Shortest
import TypedQuery.Proofs.Plan.Arguments
import TypedQuery.Proofs.Plan.Canonical
import TypedQuery.Proofs.Plan.Comparison
import TypedQuery.Proofs.Plan.Condition
import TypedQuery.Proofs.Plan.Defaults
import TypedQuery.Proofs.Plan.Documents
import TypedQuery.Proofs.Plan.ElementType
import TypedQuery.Proofs.Plan.Field
import TypedQuery.Proofs.Plan.Filter
import TypedQuery.Proofs.Plan.Filterable
import TypedQuery.Proofs.Plan.Groups
import TypedQuery.Proofs.Plan.IdLookup
import TypedQuery.Proofs.Plan.InlineFilter
import TypedQuery.Proofs.Plan.Invocations
import TypedQuery.Proofs.Plan.LetterCase
import TypedQuery.Proofs.Plan.Lookup
import TypedQuery.Proofs.Plan.Materialized
import TypedQuery.Proofs.Plan.Mutation
import TypedQuery.Proofs.Plan.Openness
import TypedQuery.Proofs.Plan.OwnText
import TypedQuery.Proofs.Plan.PagedField
import TypedQuery.Proofs.Plan.Pages
import TypedQuery.Proofs.Plan.Policies
import TypedQuery.Proofs.Plan.SequenceResults
import TypedQuery.Proofs.Plan.Shaping
import TypedQuery.Proofs.Plan.Slots
import TypedQuery.Proofs.Plan.Soundness
import TypedQuery.Proofs.Plan.UnreadArguments
import TypedQuery.Proofs.Plan.Windows
import TypedQuery.Proofs.Schema.Calls
import TypedQuery.Proofs.Schema.Closed
import TypedQuery.Proofs.Schema.Entries
import TypedQuery.Proofs.Schema.Runs
import TypedQuery.Proofs.Schema.Types
import TypedQuery.Proofs.Uuid
import TypedQuery.Proofs.Value.Coercion
import TypedQuery.Proofs.Value.Congruence
import TypedQuery.Proofs.Value.Documents
import TypedQuery.Proofs.Value.Equality
import TypedQuery.Proofs.Value.Fingerprint
import TypedQuery.Proofs.Value.Fixpoint
import TypedQuery.Proofs.Value.Integers
import TypedQuery.Proofs.Value.Lossless
import TypedQuery.Proofs.Value.MixedOrder
import TypedQuery.Proofs.Value.Order
import TypedQuery.Proofs.Value.Text
import TypedQuery.Proofs.Wire.Attributes
import TypedQuery.Proofs.Wire.Clause
import TypedQuery.Proofs.Wire.RoundTrip
import TypedQuery.Request
import TypedQuery.Sample
import TypedQuery.Schema.Builder
import TypedQuery.Schema.Field
import TypedQuery.Schema.Type
import TypedQuery.Settings.Basic
import TypedQuery.Settings.Reader
import TypedQuery.Text.Class
import TypedQuery.Text.Spelling
import TypedQuery.Uuid
import TypedQuery.Value.Basic
import TypedQuery.Value.Coercion
import TypedQuery.Value.Order
import TypedQuery.Wire.Request
