import RestQuery.Page.RecordSet
import RestQuery.Page.Rows

/-!
# Cursors

A cursor reads a query page by page. Where the next page starts, and how large it is, is told by the
response to the one before. The limit of the query bounds the records of all pages together: the
page that reaches it is cut, and no further page is read.

What a page costs and what it yields are kept apart: `Cursor.advance?` moves the window of the query
to the next page, `Cursor.deliver` takes the records of a page, and both are functions of the cursor
alone. `Cursor.read` sends the request and takes what comes back, and `Cursor.nextPage` moves the
window before that. A cursor is returned whatever becomes of the request, since a failure leaves its
mark on it too.

The relations that are read by further requests are loaded by a function that the caller hands in.
-/

namespace RestQuery

/-- Where a cursor is. -/
inductive Cursor.State where
  /-- No page was asked for. -/
  | fresh
  /-- A page was asked for, and further ones may follow. -/
  | fetching
  /-- No page follows. -/
  | exhausted
  deriving DecidableEq, Repr

/-- The part of a query that tells which records it reads. -/
structure Cursor.Window where
  limit : Option Nat
  offset : Option Nat
  perPage : Option Nat
  deriving DecidableEq

/-- A query that is read page by page. -/
structure Cursor where
  /-- The query for the page asked for last. -/
  query : Query
  /-- The window of the query as it was given. -/
  initial : Cursor.Window
  state : Cursor.State := .fresh
  /-- What the last response told about its page. -/
  page : Option Page.Info := none
  /-- The number of records delivered. -/
  fetched : Nat := 0
  /-- The number of the next record that has no other key. -/
  nextIndex : Nat := 0
  /-- The records of the last page that were not asked for one by one yet. -/
  buffer : List Model := []

/-- Attaches the relations of some records that are to be read by further requests. -/
abbrev Loader (σ : Type) := List Model → Session σ (List Model)

namespace Cursor

variable {σ : Type}

/-- The cursor for a query. -/
def of (g : Catalog) (q : Query) : Except Error Cursor :=
  (q.prepare g).map fun q =>
    { query := q, initial := { limit := q.limit, offset := q.offset, perPage := q.perPage } }

/-- The cursor from which no page follows. -/
def exhaust (c : Cursor) : Cursor := { c with state := .exhausted }

/-- The cursor before its first page. -/
def reset (c : Cursor) : Cursor :=
  { c with
    query := { c.query with
      limit := c.initial.limit, offset := c.initial.offset, perPage := c.initial.perPage }
    state := .fresh
    page := none
    fetched := 0
    nextIndex := 0
    buffer := [] }

/-- The page size and the offset of the page after the one that was read last. -/
def nextWindow? (config : Config) (c : Cursor) : Option (Nat × Nat) := do
  let page ← c.page
  let size := (page.perPage <|> c.query.perPage).getD config.defaultPerPage
  let offset ← { page with perPage := some size }.nextOffset?
  return (size, offset)

/-- The cursor about to ask for its next page, unless it is exhausted, has reached the limit, or the
last response told of no page to follow. -/
def advance? (config : Config) (c : Cursor) : Option Cursor :=
  if c.state = .exhausted then none
  else if c.initial.limit.any (· ≤ c.fetched) then none
  else if c.state = .fresh then some { c with state := .fetching }
  else (c.nextWindow? config).map fun (size, offset) =>
    { c with query := { c.query with perPage := some size, offset := some offset } }

/-- The records of a page that the limit leaves. -/
def keep (c : Cursor) (models : List Model) : List Model :=
  match c.initial.limit with
  | some limit => models.take (limit - c.fetched)
  | none => models

/-- Whether a page is the last: it reaches the limit, leaves nothing to deliver, or tells of no page
to follow. -/
def isLast (c : Cursor) (page : Page.Info) (models : List Model) : Bool :=
  c.initial.limit.any (fun limit => limit - c.fetched ≤ models.length) ||
    (c.keep models).isEmpty || !page.hasMore

/-- Takes the records of a page and returns those to deliver. -/
def deliver (c : Cursor) (page : Page.Info) (models : List Model) : Cursor × Option (List Model) :=
  let kept := c.keep models
  ({ c with
      fetched := c.fetched + kept.length
      state := if c.isLast page models then .exhausted else c.state },
    if kept.isEmpty then none else some kept)

/-- Reads the rows of a response, and loads the relations that are read by further requests. No rows
need no type. -/
def materialize (conn : Connection σ) (load : Loader σ) (q : Query) (rows : List Json) :
    Session σ (List Model) := do
  if rows.isEmpty then return []
  let s ← (q.schema? : Except Error Schema)
  let models ← (q.readRows conn.catalog conn.config.strict s rows : Except Error (List Model))
  load models

/-- Asks for the page of the cursor's query. -/
def fetch (conn : Connection σ) (c : Cursor) : Session σ Response := do
  conn.readAll (← conn.command c.query)

/-- Reads the page that the cursor's query asks for. -/
def read (conn : Connection σ) (load : Loader σ) (c : Cursor) :
    StateM (World σ) (Cursor × Except Error (Option (List Model))) := do
  match ← (c.fetch conn).run with
  | .error e => return (c, .error e)
  | .ok response =>
    let page := Page.Info.ofResponse conn.config.pageHeaders response
    let c := { c with page := some page }
    match ← (materialize conn load c.query (response.rows conn.config.envelope)).run with
    | .error e => return (c, .error e)
    | .ok models =>
      let (c, delivered) := c.deliver page models
      return (c, .ok delivered)

/-- The next page of records, or `none` from an exhausted cursor. -/
def nextPage (conn : Connection σ) (load : Loader σ) (c : Cursor) :
    StateM (World σ) (Cursor × Except Error (Option (List Model))) := do
  match c.advance? conn.config with
  | none => return (c.exhaust, .ok none)
  | some c => c.read conn load

/-- Takes a record out of the cursor's hands, with its key: the one that the query asks for, else
its number. -/
def label (c : Cursor) (m : Model) : Cursor × RowKey :=
  match c.query.index with
  | some index => (c, .named (index.key m))
  | none => ({ c with nextIndex := c.nextIndex + 1 }, .index c.nextIndex)

/-- The first of the buffered records with its key, and the cursor without it. -/
def takeBuffered? (c : Cursor) : Option (Cursor × RowKey × Model) :=
  match c.buffer with
  | [] => none
  | m :: rest =>
    let (c, key) := { c with buffer := rest }.label m
    some (c, key, m)

/-- The next record with its key, or `none` from an exhausted cursor. -/
def nextRow (conn : Connection σ) (load : Loader σ) (c : Cursor) :
    StateM (World σ) (Cursor × Except Error (Option (RowKey × Model))) := do
  match c.takeBuffered? with
  | some (c, row) => return (c, .ok (some row))
  | none =>
    match ← c.nextPage conn load with
    | (c, .error e) => return (c, .error e)
    | (c, .ok none) => return (c, .ok none)
    | (c, .ok (some models)) =>
      match { c with buffer := models }.takeBuffered? with
      | some (c, row) => return (c, .ok (some row))
      | none => return (c, .ok none)

/-- The keyed records of a list, and the cursor after them. -/
def labelAll (c : Cursor) : List Model → Cursor × List (RowKey × Model)
  | [] => (c, [])
  | m :: rest =>
    let (c, key) := c.label m
    let (c, rows) := labelAll c rest
    (c, (key, m) :: rows)

/-- Reads all records that are left into a set, over at most so many pages. -/
def drain (conn : Connection σ) (load : Loader σ) (records : RecordSet) (c : Cursor) :
    Nat → Session σ RecordSet
  | 0 => throw .unfinished
  | budget + 1 => do
    let (c, rows) := { c with buffer := [] }.labelAll c.buffer
    let records := records.insertAll rows
    match ← ExceptT.lift (c.nextPage conn load) with
    | (_, .error e) => throw e
    | (_, .ok none) => return records
    | (c, .ok (some models)) => drain conn load records { c with buffer := models } budget

/-- Reads all records that are left into a set. -/
def collect (conn : Connection σ) (load : Loader σ) (c : Cursor) : Session σ RecordSet :=
  c.drain conn load .empty conn.pageBudget

end Cursor

end RestQuery
