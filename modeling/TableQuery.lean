import TableQuery.Command.Arguments
import TableQuery.Command.Error
import TableQuery.Command.File
import TableQuery.Command.Run
import TableQuery.Error
import TableQuery.Json.Binary64
import TableQuery.Json.Error
import TableQuery.Json.Fields
import TableQuery.Json.Number
import TableQuery.Json.Printer
import TableQuery.Json.Reader
import TableQuery.Json.Shortest
import TableQuery.Json.Skip
import TableQuery.Json.Value
import TableQuery.Log
import TableQuery.Plan
import TableQuery.Query.Basic
import TableQuery.Query.Filter
import TableQuery.Query.Sort
import TableQuery.Query.Store
import TableQuery.Regex.Basic
import TableQuery.Regex.Bracket
import TableQuery.Regex.CharSet
import TableQuery.Regex.Escapes
import TableQuery.Regex.Named
import TableQuery.Regex.Read
import TableQuery.Request.Basic
import TableQuery.Request.Decode
import TableQuery.Response.Basic
import TableQuery.Response.Decode
import TableQuery.RowShape
import TableQuery.Rules
import TableQuery.Search.Pattern
import TableQuery.Search.Predicate
import TableQuery.Search.Settings
import TableQuery.Table.Basic
import TableQuery.Table.Draw
import TableQuery.Table.Prepare
import TableQuery.Text.Basic
import TableQuery.Text.Shown
import TableQuery.Unicode.Age
import TableQuery.Unicode.Case
import TableQuery.Unicode.CaseRuns
import TableQuery.Unicode.Category
import TableQuery.Unicode.CodePoints
import TableQuery.Unicode.GraphemeClusterBreak
import TableQuery.Unicode.Property
import TableQuery.Unicode.Script
import TableQuery.Unicode.ScriptExtension
import TableQuery.Unicode.SentenceBreak
import TableQuery.Unicode.WordBreak
import TableQuery.Main
import TableQuery.Proofs.Filter.Meaning
import TableQuery.Proofs.Plan.Ordering
import TableQuery.Proofs.Table.Steps
import TableQuery.Proofs.Table.Stages
import TableQuery.Proofs.Table.Preparation
import TableQuery.Proofs.Search.Predicate
import TableQuery.Proofs.Table.Search
import TableQuery.Proofs.Table.Draw
import TableQuery.Proofs.Table.SearchScope
import TableQuery.Proofs.Table.FilterHook
import TableQuery.Proofs.Table.Calls
import TableQuery.Proofs.Table.Failures
import TableQuery.Proofs.Table.Unpaged
import TableQuery.Proofs.Table.Pages
import TableQuery.Proofs.Query.SortOrder
import TableQuery.Proofs.Query.Sorting
import TableQuery.Proofs.Query.Rendering
import TableQuery.Proofs.Table.Exclusion
import TableQuery.Proofs.Table.Cursor
import TableQuery.Proofs.Filter.Fields
import TableQuery.Proofs.Query.Hidden
import TableQuery.Proofs.Table.Logged
import TableQuery.Proofs.Rows.Shapes
import TableQuery.Proofs.Table.Answers
import TableQuery.Proofs.Json.Members
import TableQuery.Proofs.Table.Envelope
import TableQuery.Proofs.Command.Agreement
import TableQuery.Proofs.Query.Rearranged
import TableQuery.Proofs.Table.ColumnOrder
import TableQuery.Proofs.Table.DebugOutput
import TableQuery.Proofs.Search.AnyColumn
import TableQuery.Proofs.Regex.Spans
import TableQuery.Proofs.Regex.Pieces
import TableQuery.Proofs.Unicode.Case
import TableQuery.Proofs.Search.Keyword
import TableQuery.Proofs.Search.IgnoredCase
import TableQuery.Proofs.Query.StableSort
import TableQuery.Proofs.Table.RequestedOrder
import TableQuery.Proofs.Table.RowNumbers
import TableQuery.Proofs.Search.Subquery
import TableQuery.Proofs.Rows.Edits
import TableQuery.Proofs.Rows.Removal
import TableQuery.Proofs.Table.ArrayRows
import TableQuery.Proofs.Request.RoundTrip
import TableQuery.Proofs.Text.Decimal
import TableQuery.Proofs.Request.Reading
import TableQuery.Proofs.Request.FormEncoded
import TableQuery.Proofs.Request.Grammar
import TableQuery.Proofs.Command.DrawEcho
import TableQuery.Proofs.Response.RoundTrip
import TableQuery.Proofs.Filter.Comparisons
import TableQuery.Proofs.Json.Quoted
import TableQuery.Proofs.Json.Numeral
import TableQuery.Proofs.Json.Grammar
import TableQuery.Proofs.Json.Printed
import TableQuery.Proofs.Log.Lines
import TableQuery.Proofs.Command.Exit
import TableQuery.Proofs.Filter.Precedence
import TableQuery.Proofs.Query.Lookup
import TableQuery.Proofs.Rules.Registrations
import TableQuery.Proofs.Table.SameRules
