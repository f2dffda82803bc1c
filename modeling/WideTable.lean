import WideTable.Adapter
import WideTable.Bytes
import WideTable.Config
import WideTable.Config.Document
import WideTable.Config.File
import WideTable.Decimal.Layout
import WideTable.Decimal.Nearest
import WideTable.Decimal.Shortest
import WideTable.Error
import WideTable.FileTree
import WideTable.Filter
import WideTable.Filter.Apply
import WideTable.Json
import WideTable.Proofs.Config.Acceptance
import WideTable.Proofs.Config.Ids
import WideTable.Proofs.Except
import WideTable.Proofs.Filter.Chain
import WideTable.Proofs.Filter.Counter
import WideTable.Proofs.Filter.Exact
import WideTable.Proofs.Filter.Exchange
import WideTable.Proofs.Filter.Leaves
import WideTable.Proofs.Filter.Limit
import WideTable.Proofs.Filter.Refusal
import WideTable.Proofs.Filter.Thinning
import WideTable.Proofs.Range.Edges
import WideTable.Proofs.Range.Meaning
import WideTable.Proofs.Read.Bounds
import WideTable.Proofs.Read.Calls
import WideTable.Proofs.Read.CellOrder
import WideTable.Proofs.Read.Conditions
import WideTable.Proofs.Read.Exchange
import WideTable.Proofs.Read.Exhaustion
import WideTable.Proofs.Read.FilterOrder
import WideTable.Proofs.Read.HalfBounds
import WideTable.Proofs.Read.Isolation
import WideTable.Proofs.Read.Lookup
import WideTable.Proofs.Read.Lossless
import WideTable.Proofs.Read.Narrowing
import WideTable.Proofs.Read.Order
import WideTable.Proofs.Read.Product
import WideTable.Proofs.Read.Reached
import WideTable.Proofs.Read.Refusal
import WideTable.Proofs.Read.Session
import WideTable.Proofs.Read.Stepwise
import WideTable.Proofs.Read.Versions
import WideTable.Proofs.Read.WholeMatch
import WideTable.Proofs.Regex.Classes
import WideTable.Proofs.Regex.Delimited
import WideTable.Proofs.Regex.Exact
import WideTable.Proofs.Regex.Groups
import WideTable.Proofs.Regex.LiteralSize
import WideTable.Proofs.Regex.Literals
import WideTable.Proofs.Regex.Parts
import WideTable.Proofs.Regex.Positions
import WideTable.Proofs.Regex.Reading
import WideTable.Proofs.Regex.Search
import WideTable.Proofs.Regex.Tokens
import WideTable.Proofs.Regex.Whole
import WideTable.Proofs.Row.Coding
import WideTable.Proofs.Row.Cut
import WideTable.Proofs.Row.Description
import WideTable.Proofs.Row.Flattening
import WideTable.Proofs.Row.Lookup
import WideTable.Proofs.Row.Nesting
import WideTable.Proofs.Row.WellFormed
import WideTable.Proofs.Selector.Run
import WideTable.Proofs.Store.Insert
import WideTable.Proofs.Store.Paging
import WideTable.Proofs.Store.Refusal
import WideTable.Proofs.Store.Reshaping
import WideTable.Proofs.Store.Response
import WideTable.Proofs.Store.Scan
import WideTable.Proofs.Store.Search
import WideTable.Proofs.Store.Selection
import WideTable.Proofs.Store.SortedMap
import WideTable.Proofs.Store.Stored
import WideTable.Proofs.TableName
import WideTable.Proofs.Text.Quoted
import WideTable.Proofs.Toml.Keys
import WideTable.Range
import WideTable.Read.Basic
import WideTable.Read.Call
import WideTable.Read.Draft
import WideTable.Read.Projection
import WideTable.Regex.Basic
import WideTable.Regex.Class
import WideTable.Regex.Escape
import WideTable.Regex.Flags
import WideTable.Regex.Footprint
import WideTable.Regex.Form
import WideTable.Regex.Matching
import WideTable.Regex.Pattern
import WideTable.Regex.Spacing
import WideTable.Regex.Symbol
import WideTable.Request
import WideTable.Row
import WideTable.Row.Entries
import WideTable.Row.Json
import WideTable.Selector
import WideTable.Store.Basic
import WideTable.Store.Read
import WideTable.Store.SortedMap
import WideTable.TableName
import WideTable.Text.Age
import WideTable.Text.Blank
import WideTable.Text.ByteRanges
import WideTable.Text.Casing
import WideTable.Text.Category
import WideTable.Text.CodeSet
import WideTable.Text.Hex
import WideTable.Text.Property
import WideTable.Text.Quoted
import WideTable.Text.Recent
import WideTable.Text.Script
import WideTable.Text.Segmentation
import WideTable.Text.Trait.Basic
import WideTable.Text.Trait.Derived
import WideTable.Text.Utf8
import WideTable.Text.Word
import WideTable.Toml.Blank
import WideTable.Toml.DateTime
import WideTable.Toml.Document
import WideTable.Toml.Scalar
import WideTable.Toml.Text
import WideTable.Toml.Value
