import RestQuery.Error
import RestQuery.Http.Request
import RestQuery.Model.Key
import RestQuery.Page.Info
import RestQuery.Text.Blank
import RestQuery.Text.Cut

/-!
# A backend in memory

The store serves collections of rows as a paginated backend does. A collection is listed page by
page, filtered by the comparisons `eq`, `neq`, `in` and `nin` of single fields; a row is found under
the path of its collection by the text of its `id`. Rows are added, changed and removed by the
methods for it. Replies that were queued are given first, whatever the request.

Numbers have 64 bits. A row that is added gets the next number in 64 bits. The page of a listing is
told by its size and its number, and where it ends is counted without a bound: what is said of pages
holds of those that end within 64 bits.
-/

namespace RestQuery

/-- The settings of a store. -/
structure Store.Settings where
  /-- The page size where a request asks for none. -/
  pageSize : Nat := 20
  /-- The greatest page size served. -/
  maxPageSize : Nat := 50
  pageHeaders : Page.HeaderNames := {}

namespace Store.Settings

/-- The settings with another usual page size, at least one. -/
def withPageSize (s : Settings) (size : Nat) : Settings := { s with pageSize := max size 1 }

/-- The settings with another greatest page size, at least one. -/
def withMaxPageSize (s : Settings) (size : Nat) : Settings := { s with maxPageSize := max size 1 }

end Store.Settings

/-- The rows of a store, the replies that are queued, and the requests seen so far. -/
structure Store where
  collections : KeyMap (List Json) := []
  queued : List (Except String Response) := []
  requests : List Request := []

namespace Store

/-- The path under which a collection is served. -/
def collectionPath (path : String) : String := Text.trimChar '/' path

/-- Serves some rows under a path, in place of older ones. -/
def serve (st : Store) (path : String) (rows : List Json) : Store :=
  { st with collections := KeyMap.insert st.collections (collectionPath path) rows }

/-- The rows under a path. -/
def rows (st : Store) (path : String) : List Json :=
  (KeyMap.get? st.collections (collectionPath path)).getD []

/-- Queues a reply, or the reason why there is none. -/
def enqueue (st : Store) (reply : Except String Response) : Store :=
  { st with queued := st.queued ++ [reply] }

/-- A comparison of a field, with the texts that it compares with. -/
structure Criterion where
  field : String
  op : String
  values : List String
  deriving DecidableEq

/-- The field and the operator that the key of a query pair names: `filter[field][op]`, perhaps with
one more part. -/
def criterionKey? (key : String) : Option (String × String) :=
  match key.toList with
  | 'f' :: 'i' :: 'l' :: 't' :: 'e' :: 'r' :: '[' :: rest =>
    let parts := (Text.piecesAtPair ']' '[' (Text.dropEndWhile (· == ']') rest)).map String.ofList
    match parts with
    | [field, op] | [field, op, _] =>
      if op ∈ ["eq", "neq", "in", "nin"] then some (field, op) else none
    | _ => none
  | _ => none

/-- Adds a value to the criterion of a field and an operator. -/
def addCriterion (field op value : String) : List Criterion → List Criterion
  | [] => [⟨field, op, [value]⟩]
  | c :: rest =>
    if c.field = field ∧ c.op = op then { c with values := c.values ++ [value] } :: rest
    else c :: addCriterion field op value rest

/-- The criteria that some query pairs spell; other pairs are ignored. -/
def criteria (query : List (String × String)) : List Criterion :=
  query.foldl (fun acc pair =>
    match criterionKey? pair.1 with
    | some (field, op) => addCriterion field op pair.2 acc
    | none => acc) []

/-- Whether a row meets a criterion. A field that the row lacks has the empty text. -/
def Criterion.holds (c : Criterion) (row : Json) : Bool :=
  let found := c.values.contains (((row.member? c.field).map Json.keyText).getD "")
  if c.op = "eq" ∨ c.op = "in" then found else !found

/-- Whether a row meets all criteria. -/
def meetsAll (criteria : List Criterion) (row : Json) : Bool :=
  criteria.all (·.holds row)

/-- A row with the fields asked for only, and with the lists and objects in it. -/
def project (fields : Option String) (row : Json) : Json :=
  match row, fields with
  | .object members, some fields =>
    let wanted := Text.pieces ',' fields
    .object (members.filter fun (key, value) =>
      wanted.contains key || value.isObject || value.isList)
  | row, _ => row

/-- The page size of a request: the one asked for if it is a positive number, else the usual, and at
most the greatest. -/
def Settings.pageSizeFor (s : Settings) (request : Request) : Nat :=
  let asked := (request.queryValue? "per-page").bind (Text.nat? Text.maxWord64)
  min ((asked.filter (0 < ·)).getD s.pageSize) s.maxPageSize

/-- The page that a request asks for, at least the first. -/
def pageFor (request : Request) : Nat :=
  max (((request.queryValue? "page").bind (Text.nat? Text.maxWord64)).getD 1) 1

/-- The answer to a list request on some rows. -/
def list (s : Settings) (rows : List Json) (request : Request) : Response :=
  let found := rows.filter (meetsAll (criteria request.query))
  let perPage := s.pageSizeFor request
  let page := pageFor request
  let items := (found.drop ((page - 1) * perPage)).take perPage
  let body :=
    if request.method = .head then .null
    else .list (items.map (project (request.queryValue? "fields")))
  ({ status := 200, body := body } : Response)
    |>.withHeader s.pageHeaders.totalCount (toString found.length)
    |>.withHeader s.pageHeaders.pageCount (toString ((found.length + perPage - 1) / perPage))
    |>.withHeader s.pageHeaders.currentPage (toString page)
    |>.withHeader s.pageHeaders.perPage (toString perPage)

/-- The greatest number that is the `id` of a row, zero if there is none. -/
def greatestId (rows : List Json) : Nat :=
  (rows.filterMap fun row => (row.member? "id").bind Json.nat?).foldl max 0

/-- The number after the greatest that is the `id` of a row, in 64 bits. -/
def nextId (rows : List Json) : Nat := (greatestId rows + 1) % (Text.maxWord64 + 1)

/-- The row that is stored for a body: an object without an `id` gets the next. -/
def newRow (rows : List Json) (body : Option Json) : Json :=
  match body.getD (.object []) with
  | .object members =>
    if KeyMap.contains members "id" then .object members
    else .object (KeyMap.insert members "id" (Json.nat (nextId rows)))
  | row => row

/-- A row with the members of a body put over its own, if both are objects. -/
def changedRow (row : Json) (body : Option Json) : Json :=
  match row, body with
  | .object members, some (.object changes) => .object (KeyMap.overlay members changes)
  | row, _ => row

/-- The refusal of a method, with those allowed. -/
def notAllowed (methods : String) : Response :=
  ({ status := 405 } : Response).withHeader "Allow" methods

/-- Whether a row is the one with an `id` of the given text. -/
def hasId (id : String) (row : Json) : Bool :=
  (row.member? "id").map Json.keyText == some id

/-- The answer to a request for a collection. -/
def onCollection (s : Settings) (st : Store) (path : String) (rows : List Json)
    (request : Request) : Response × Store :=
  match request.method with
  | .get | .head => (list s rows request, st)
  | .post =>
    let row := newRow rows request.body
    ({ status := 201, body := row },
      { st with collections := KeyMap.insert st.collections path (rows ++ [row]) })
  | .put | .delete => (notAllowed "GET, HEAD, POST", st)

/-- The answer to a request for a row of a collection. -/
def onItem (st : Store) (path : String) (rows : List Json) (position : Nat) (row : Json)
    (request : Request) : Response × Store :=
  match request.method with
  | .get | .head => ({ status := 200, body := project (request.queryValue? "fields") row }, st)
  | .put =>
    let row := changedRow row request.body
    ({ status := 200, body := row },
      { st with collections := KeyMap.insert st.collections path (rows.set position row) })
  | .delete =>
    ({ status := 204 },
      { st with collections := KeyMap.insert st.collections path (rows.eraseIdx position) })
  | .post => (notAllowed "GET, HEAD, PUT, DELETE", st)

/-- The answer to a request by the rows alone. -/
def handle (s : Settings) (st : Store) (request : Request) : Response × Store :=
  let path := collectionPath request.path
  match KeyMap.get? st.collections path with
  | some rows => onCollection s st path rows request
  | none =>
    let found := do
      let (collection, key) ← Text.cutLast '/' path
      let rows ← KeyMap.get? st.collections collection
      let position ← rows.findIdx? (hasId (Text.percentDecode key))
      let row ← rows[position]?
      some (collection, rows, position, row)
    match found with
    | some (collection, rows, position, row) => onItem st collection rows position row request
    | none => ({ status := 404 }, st)

/-- The reply to a request: the first queued, else the answer by the rows. -/
def send (s : Settings) (request : Request) (st : Store) : Except Error Response × Store :=
  let st := { st with requests := st.requests ++ [request] }
  match st.queued with
  | .ok response :: rest => (.ok response, { st with queued := rest })
  | .error reason :: rest => (.error (.transport reason), { st with queued := rest })
  | [] =>
    let (response, st) := handle s st request
    (.ok response, st)

end Store

end RestQuery
