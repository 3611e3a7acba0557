import RestQuery.Page.Info
import RestQuery.Retry

/-!
# Configuration

What a connection has to know about its backend.
-/

namespace RestQuery

/-- The configuration of a connection. -/
structure Config where
  /-- The URL below which all resources are. -/
  baseUrl : String := ""
  /-- The page size taken for offsets where a query gives none. -/
  defaultPerPage : Nat := 20
  /-- The greatest page size that is taken from a query. -/
  maxPerPage : Nat := 50
  /-- How long to wait for one answer, in milliseconds. -/
  timeout : Nat := 30000
  /-- The key that holds the rows of list responses, if the backend wraps them. -/
  envelope : Option String := none
  /-- Whether undeclared keys of a row are an error. -/
  strict : Bool := false
  pageHeaders : Page.HeaderNames := {}
  retry : Retry.Policy := {}
  deriving DecidableEq, Inhabited

end RestQuery
