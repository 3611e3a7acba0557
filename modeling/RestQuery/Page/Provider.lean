import RestQuery.Page.Eager

/-!
# Single pages

A listing shows one page of a query at a time, each read by one request. Pages are counted from zero
here. The response tells which page it really is, and how large pages are.
-/

namespace RestQuery

/-- One page of a listing. -/
structure Page where
  models : List Model
  info : Page.Info
  /-- The number of the page, from zero. -/
  number : Nat
  size : Nat

/-- The number of records of all pages; if it is not told, those of this page. -/
def Page.total (p : Page) : Nat := p.info.totalCount.getD p.models.length

/-- The number of pages; if it is not told, one. -/
def Page.pages (p : Page) : Nat := p.info.pageCount.getD 1

/-- A query that is shown page by page. -/
structure Listing where
  query : Query
  pageSize : Nat := 20
  /-- The order of the records, after that of the query. -/
  sort : List (String × Direction) := []

namespace Listing

/-- The listing with pages of a size, at least one. -/
def withPageSize (l : Listing) (size : Nat) : Listing := { l with pageSize := max size 1 }

/-- The listing with a further field to order by. -/
def withSort (l : Listing) (field : String) (direction : Direction) : Listing :=
  { l with sort := l.sort ++ [(field, direction)] }

/-- The query for one page. -/
def pageQuery (l : Listing) (number : Nat) : Query :=
  let q := ((l.query.limitTo l.pageSize).pageSize l.pageSize).startAt (number * l.pageSize)
  l.sort.foldl (fun q (field, direction) => q.orderBy field direction) q

/-- Reads one page. If the server tells that there is no record, the rows are not looked at. -/
def fetch {σ : Type} (conn : Connection σ) (l : Listing) (number : Nat) : Session σ Page := do
  let q ← ((l.pageQuery number).prepare conn.catalog : Except Error Query)
  let response ← conn.readAll (← conn.command q)
  let info := Page.Info.ofResponse conn.config.pageHeaders response
  let models ←
    if info.totalCount = some 0 then pure []
    else Cursor.materialize conn (conn.loader q) q (response.rows conn.config.envelope)
  return {
    models := models
    info := info
    number := (info.currentPage.map (· - 1)).getD number
    size := info.perPage.getD l.pageSize }

end Listing

end RestQuery
