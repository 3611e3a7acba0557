import RestQuery.Config.Basic
import RestQuery.Config.Environment
import RestQuery.Config.Form
import RestQuery.Config.Validate
import RestQuery.Connection.Basic
import RestQuery.Connection.Command
import RestQuery.Connection.Open
import RestQuery.Credential
import RestQuery.Decimal.Shortest
import RestQuery.Error
import RestQuery.Filter.Compile
import RestQuery.Filter.Condition
import RestQuery.Filter.Form
import RestQuery.Filter.Wire
import RestQuery.Http.Date
import RestQuery.Http.Exchange
import RestQuery.Http.Request
import RestQuery.Http.Response
import RestQuery.Http.RetryAfter
import RestQuery.Http.Status
import RestQuery.Json.Basic
import RestQuery.Json.Decode
import RestQuery.Json.Number
import RestQuery.Json.Reader
import RestQuery.Json.Text
import RestQuery.KeyMap
import RestQuery.Model.Basic
import RestQuery.Model.Key
import RestQuery.Model.Persist
import RestQuery.Model.Typed
import RestQuery.Page.Cursor
import RestQuery.Page.Eager
import RestQuery.Page.Info
import RestQuery.Page.Provider
import RestQuery.Page.RecordSet
import RestQuery.Page.Rows
import RestQuery.Proofs.Client.Authentication
import RestQuery.Proofs.Client.Cancellation
import RestQuery.Proofs.Client.HeldResponse
import RestQuery.Proofs.Client.Operations
import RestQuery.Proofs.Config.BaseUrl
import RestQuery.Proofs.Connection.AsBefore
import RestQuery.Proofs.Connection.Attempts
import RestQuery.Proofs.Connection.Executes
import RestQuery.Proofs.Connection.Held
import RestQuery.Proofs.Connection.Interrupted
import RestQuery.Proofs.Connection.Item
import RestQuery.Proofs.Connection.Reading
import RestQuery.Proofs.Connection.RetryContract
import RestQuery.Proofs.Connection.Sends
import RestQuery.Proofs.Filter.Brackets
import RestQuery.Proofs.Filter.Criteria
import RestQuery.Proofs.Filter.Evaluation
import RestQuery.Proofs.Filter.Grammar
import RestQuery.Proofs.Filter.Leaves
import RestQuery.Proofs.Filter.Meaning
import RestQuery.Proofs.Filter.Negation
import RestQuery.Proofs.Filter.Overwritten
import RestQuery.Proofs.Filter.Refusal
import RestQuery.Proofs.Filter.Sent
import RestQuery.Proofs.Filter.Substitution
import RestQuery.Proofs.Http.RetryAfter
import RestQuery.Proofs.Model.History
import RestQuery.Proofs.Model.Insert
import RestQuery.Proofs.Model.Key
import RestQuery.Proofs.Model.Paths
import RestQuery.Proofs.Model.RoundTrip
import RestQuery.Proofs.Model.Rows
import RestQuery.Proofs.Model.Strict
import RestQuery.Proofs.Model.Writes
import RestQuery.Proofs.Outcome
import RestQuery.Proofs.Page.Alike
import RestQuery.Proofs.Page.Calls
import RestQuery.Proofs.Page.Composed
import RestQuery.Proofs.Page.Cursor
import RestQuery.Proofs.Page.Delivery
import RestQuery.Proofs.Page.Distinct
import RestQuery.Proofs.Page.First
import RestQuery.Proofs.Page.Hand
import RestQuery.Proofs.Page.Inline
import RestQuery.Proofs.Page.Inserts
import RestQuery.Proofs.Page.Keyed
import RestQuery.Proofs.Page.Linked
import RestQuery.Proofs.Page.Listing
import RestQuery.Proofs.Page.LoadLog
import RestQuery.Proofs.Page.Loading
import RestQuery.Proofs.Page.Next
import RestQuery.Proofs.Page.Progress
import RestQuery.Proofs.Page.Queries
import RestQuery.Proofs.Page.RecordSet
import RestQuery.Proofs.Page.Reset
import RestQuery.Proofs.Page.Respects
import RestQuery.Proofs.Page.RowByRow
import RestQuery.Proofs.Page.Run
import RestQuery.Proofs.Page.Sizes
import RestQuery.Proofs.Query.All
import RestQuery.Proofs.Query.Column
import RestQuery.Proofs.Query.Combined
import RestQuery.Proofs.Query.Count
import RestQuery.Proofs.Query.Joined
import RestQuery.Proofs.Query.Lazy
import RestQuery.Proofs.Query.Lookup
import RestQuery.Proofs.Query.One
import RestQuery.Proofs.Query.Pairs
import RestQuery.Proofs.Query.Prepared
import RestQuery.Proofs.Query.Related
import RestQuery.Proofs.Query.Resolution
import RestQuery.Proofs.Query.Returns
import RestQuery.Proofs.Query.Select
import RestQuery.Proofs.Query.Served
import RestQuery.Proofs.Query.StoredRead
import RestQuery.Proofs.Query.Targets
import RestQuery.Proofs.Query.Window
import RestQuery.Proofs.Retry
import RestQuery.Proofs.Session
import RestQuery.Proofs.Store
import RestQuery.Proofs.Store.Conservation
import RestQuery.Proofs.Store.Routes
import RestQuery.Proofs.Store.Segments
import RestQuery.Proofs.Text.Digits
import RestQuery.Proofs.Text.Percent
import RestQuery.Proofs.Text.Pieces
import RestQuery.Query.Basic
import RestQuery.Query.Joins
import RestQuery.Query.Request
import RestQuery.Query.Run
import RestQuery.Query.Step
import RestQuery.Retry
import RestQuery.Schema.Basic
import RestQuery.Schema.Inflection
import RestQuery.Store
import RestQuery.Text.Ascii
import RestQuery.Text.Bidi
import RestQuery.Text.Blank
import RestQuery.Text.Compose
import RestQuery.Text.Cut
import RestQuery.Text.Joiner
import RestQuery.Text.Letters
import RestQuery.Text.Marks
import RestQuery.Text.Percent
import RestQuery.Text.Printable
import RestQuery.Text.Span
import RestQuery.Url.Basic
import RestQuery.Url.Encoded
import RestQuery.Url.Host
import RestQuery.Url.Name
import RestQuery.Url.NameChar
import RestQuery.Url.Target
