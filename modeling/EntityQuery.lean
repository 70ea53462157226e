import EntityQuery.Access
import EntityQuery.Calendar.Date
import EntityQuery.Calendar.DateTime
import EntityQuery.Calendar.TimeOfDay
import EntityQuery.Calendar.TimeUnit
import EntityQuery.Calendar.Timestamp
import EntityQuery.Condition.Basic
import EntityQuery.Condition.Category
import EntityQuery.Condition.Constant
import EntityQuery.Condition.Context
import EntityQuery.Condition.Enumeration
import EntityQuery.Condition.Property
import EntityQuery.Culture
import EntityQuery.Document
import EntityQuery.Fault.Basic
import EntityQuery.Fault.Code
import EntityQuery.Fault.Report
import EntityQuery.Filter.Build
import EntityQuery.Filter.Entity
import EntityQuery.Filter.Json
import EntityQuery.Filter.Tree
import EntityQuery.Guid
import EntityQuery.Json.Basic
import EntityQuery.Json.Part
import EntityQuery.Json.Printer
import EntityQuery.Json.Reader
import EntityQuery.Logging
import EntityQuery.Model
import EntityQuery.Number.Binary64
import EntityQuery.Number.Binary64.Decimal
import EntityQuery.Number.Integer
import EntityQuery.Operator
import EntityQuery.Operator.Reader
import EntityQuery.OrderedMap
import EntityQuery.Page.Basic
import EntityQuery.Page.Bounds
import EntityQuery.Page.Json
import EntityQuery.Predicate.Basic
import EntityQuery.Predicate.Evaluation
import EntityQuery.Predicate.Printer
import EntityQuery.Predicate.Simplified
import EntityQuery.Proofs.Access
import EntityQuery.Proofs.Agreement
import EntityQuery.Proofs.Calendar.Date
import EntityQuery.Proofs.Calendar.DateTime
import EntityQuery.Proofs.Calendar.Shift
import EntityQuery.Proofs.Calendar.TimeUnit
import EntityQuery.Proofs.Calendar.Written
import EntityQuery.Proofs.Condition
import EntityQuery.Proofs.Condition.Groups
import EntityQuery.Proofs.Condition.Inequality
import EntityQuery.Proofs.Condition.Members
import EntityQuery.Proofs.Conformance
import EntityQuery.Proofs.Culture
import EntityQuery.Proofs.Filter.Build
import EntityQuery.Proofs.Filter.Cast
import EntityQuery.Proofs.Filter.Clear
import EntityQuery.Proofs.Filter.Folding
import EntityQuery.Proofs.Filter.Interchangeable
import EntityQuery.Proofs.Filter.Lenient
import EntityQuery.Proofs.Filter.Policy
import EntityQuery.Proofs.Filter.Pruned
import EntityQuery.Proofs.Filter.Reading
import EntityQuery.Proofs.Filter.Regrouped
import EntityQuery.Proofs.Filter.Relaxed
import EntityQuery.Proofs.Filter.Reordered
import EntityQuery.Proofs.Filter.Required
import EntityQuery.Proofs.Filter.Simulation
import EntityQuery.Proofs.Filter.Store
import EntityQuery.Proofs.Filter.Typing
import EntityQuery.Proofs.Json.Part
import EntityQuery.Proofs.Json.Reader
import EntityQuery.Proofs.Json.Settings
import EntityQuery.Proofs.Json.Stored
import EntityQuery.Proofs.Model
import EntityQuery.Proofs.Number.Binary64
import EntityQuery.Proofs.Number.Integer
import EntityQuery.Proofs.Page.Partition
import EntityQuery.Proofs.Page.Resolve
import EntityQuery.Proofs.Predicate.Checks
import EntityQuery.Proofs.Predicate.Evaluation
import EntityQuery.Proofs.Predicate.Guards
import EntityQuery.Proofs.Predicate.Rebase
import EntityQuery.Proofs.Predicate.Simplified
import EntityQuery.Proofs.Predicate.Typing
import EntityQuery.Proofs.Sequential
import EntityQuery.Proofs.Sort.Accepted
import EntityQuery.Proofs.Sort.Appended
import EntityQuery.Proofs.Sort.Canonical
import EntityQuery.Proofs.Sort.InPlace
import EntityQuery.Proofs.Sort.Markers
import EntityQuery.Proofs.Sort.Mixed
import EntityQuery.Proofs.Sort.Nested
import EntityQuery.Proofs.Sort.Order
import EntityQuery.Proofs.Sort.Passes
import EntityQuery.Proofs.Sort.Path
import EntityQuery.Proofs.Sort.Pattern
import EntityQuery.Proofs.Sort.Positions
import EntityQuery.Proofs.Sort.Printed
import EntityQuery.Proofs.Sort.Rearrangement
import EntityQuery.Proofs.Sort.Selection
import EntityQuery.Proofs.Sort.Threshold
import EntityQuery.Proofs.Span.Absolute
import EntityQuery.Proofs.Span.Amount
import EntityQuery.Proofs.Span.Calendar
import EntityQuery.Proofs.Span.Nonempty
import EntityQuery.Proofs.Span.Offset
import EntityQuery.Proofs.Span.Phrase
import EntityQuery.Proofs.Span.ShortDate
import EntityQuery.Proofs.Span.Written
import EntityQuery.Proofs.StableSort
import EntityQuery.Proofs.Text
import EntityQuery.Proofs.Text.Lowercase
import EntityQuery.Proofs.ValueFilter.RoundTrip
import EntityQuery.Proofs.ValueFilter.Spelling
import EntityQuery.Proofs.ValueFilter.Splitting
import EntityQuery.Proofs.ValueFilter.Tokens
import EntityQuery.Proofs.Visibility
import EntityQuery.Query
import EntityQuery.Settings.Defaults
import EntityQuery.Settings.Filter
import EntityQuery.Settings.Json
import EntityQuery.Settings.Page
import EntityQuery.Settings.Policy
import EntityQuery.Settings.Reader
import EntityQuery.Settings.Sort
import EntityQuery.Settings.Toml
import EntityQuery.Sort.Compiled
import EntityQuery.Sort.Entity
import EntityQuery.Sort.Json
import EntityQuery.Sort.Key
import EntityQuery.Sort.Path
import EntityQuery.Sort.Reader
import EntityQuery.Sort.Rearrangement
import EntityQuery.Span.Absolute
import EntityQuery.Span.Amount
import EntityQuery.Span.Basic
import EntityQuery.Span.Literal
import EntityQuery.Span.Relative
import EntityQuery.StableSort
import EntityQuery.Text.Basic
import EntityQuery.Text.Character
import EntityQuery.Text.Lowercase
import EntityQuery.Text.Quoted
import EntityQuery.Text.Unicode.Alphabetic
import EntityQuery.Text.Unicode.CaseIgnorable
import EntityQuery.Text.Unicode.Cased
import EntityQuery.Text.Unicode.DefaultIgnorable
import EntityQuery.Text.Unicode.GraphemeExtend
import EntityQuery.Text.Unicode.LowercaseRuns
import EntityQuery.Text.Unicode.Unprintable
import EntityQuery.Toml.Basic
import EntityQuery.Toml.Moment
import EntityQuery.Toml.Number
import EntityQuery.Toml.Quoted
import EntityQuery.Toml.Reader
import EntityQuery.Toml.Table
import EntityQuery.Value
import EntityQuery.ValueFilter.Basic
import EntityQuery.ValueFilter.Escape
import EntityQuery.ValueFilter.Json
import EntityQuery.ValueFilter.Printer
import EntityQuery.ValueFilter.Reader
