import RestQuery.Config.Basic
import RestQuery.Credential
import RestQuery.Filter.Wire
import RestQuery.Http.Request
import RestQuery.Query.Joins

/-!
# What a query asks for

`Query.clauses` compiles a query into the clauses of a request. Clauses without content are left
out. `Clauses.pairs` is what is sent of them.

A query is read page by page. The page size is the one of the query if it does not exceed the
greatest allowed, else the limit if that is smaller than the greatest allowed, else the default. The
default is sent only together with a page.
-/

namespace RestQuery

/-- The clauses of a request; a clause that is `none` is not sent. -/
structure Clauses where
  fields : Option String := none
  expand : Option String := none
  filter : Option Filter := none
  sort : Option String := none
  perPage : Option Nat := none
  page : Option Nat := none
  deriving DecidableEq, Inhabited

namespace Clauses

/-- Whether there is no clause. -/
def isEmpty (c : Clauses) : Bool := c == {}

/-- A pair for a clause that is present. -/
def pair (name : String) (value : Option String) : List (String × String) :=
  (value.map fun v => (name, v)).toList

/-- The query pairs of the clauses. -/
def pairs (c : Clauses) : List (String × String) :=
  pair "fields" c.fields ++ pair "expand" c.expand ++
    Wire.filterPairs (c.filter.getD []) ++ pair "sort" c.sort ++
    pair "per-page" (c.perPage.map toString) ++ pair "page" (c.page.map toString)

/-- The clauses that are present, as an object. -/
def toJson (c : Clauses) : Json :=
  let member (name : String) (value : Option Json) : List (String × Json) :=
    (value.map fun v => (name, v)).toList
  .ofMembers (member "fields" (c.fields.map .text) ++ member "expand" (c.expand.map .text) ++
    member "filter" (c.filter.map .object) ++ member "sort" (c.sort.map .text) ++
    member "per-page" (c.perPage.map .nat) ++ member "page" (c.page.map .nat))

end Clauses

/-- A compiled query. -/
structure Descriptor where
  typeName : Option String := none
  uri : String
  headers : KeyMap String := []
  clauses : Clauses := {}
  action : Option Action := none
  deriving DecidableEq

namespace Query

/-- Some parts as one text with commas; empty parts are left out, and nothing is no text. -/
def commaList (parts : List String) : Option String :=
  let joined := String.intercalate "," (parts.filter (· ≠ ""))
  if joined = "" then none else some joined

/-- The page size of the query, and whether the query itself asks for one. -/
def chosenPageSize (config : Config) (q : Query) : Nat × Bool :=
  match q.perPage, q.limit with
  | some perPage, limit =>
    if perPage ≤ config.maxPerPage then (perPage, true)
    else match limit with
      | some limit =>
        if limit < config.maxPerPage then (limit, true) else (config.defaultPerPage, false)
      | none => (config.defaultPerPage, false)
  | none, some limit =>
    if limit < config.maxPerPage then (limit, true) else (config.defaultPerPage, false)
  | none, none => (config.defaultPerPage, false)

/-- The page size and the page to ask for. Pages are counted from one, and with no size there is
only the first. -/
def pageClauses (config : Config) (q : Query) : Option Nat × Option Nat :=
  let (perPage, asked) := q.chosenPageSize config
  match q.offset with
  | some offset => (some perPage, some (offset / perPage + 1))
  | none => (if asked then some perPage else none, none)

/-- A field of an order; a minus sign tells that the order is descending. -/
def sortKey : String × Direction → String
  | (field, .ascending) => field
  | (field, .descending) => "-" ++ field

/-- The filter of the query, under its parameters put over those given. -/
def compiledFilter (params : Parameters) (q : Query) : Except Error Filter :=
  match q.condition with
  | some c => c.compile (params.overlay q.params)
  | none => .ok []

/-- The clauses of a query whose paths are resolved. -/
def clauses (config : Config) (params : Parameters) (q : Query) : Except Error Clauses := do
  let filter ← q.compiledFilter params
  let (perPage, page) := q.pageClauses config
  return {
    fields := commaList q.select
    expand := commaList (q.joins.flatMap Join.names)
    filter := if filter.isEmpty then none else some filter
    sort := commaList (q.order.map sortKey)
    perPage := perPage
    page := page }

/-- The compiled query, without headers. The query itself stays as it is. -/
def describe (g : Catalog) (config : Config) (params : Parameters) (q : Query) :
    Except Error Descriptor := do
  let q ← q.prepare g
  let clauses ← q.clauses config params
  return {
    typeName := q.schema.map Schema.typeName
    uri := Text.trim q.resourceName
    clauses := clauses
    action := q.action }

/-- The compiled query with the headers that carry the credential, when a dynamic source was asked
so often before. -/
def build (g : Catalog) (config : Config) (a : Auth) (asked : Nat) (params : Parameters)
    (q : Query) : Except Error Descriptor :=
  (q.describe g config params).map fun d => { d with headers := a.headers asked }

end Query

end RestQuery
