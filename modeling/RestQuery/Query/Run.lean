import RestQuery.Page.Eager

/-!
# Running queries

What a query can be asked for over a connection: all its records, the first of them, their number,
a single value of each, or a cursor over them.
-/

namespace RestQuery.Connection

variable {σ : Type}

/-- The command of a query, which gets if it has no other action. -/
def queryCommand (conn : Connection σ) (q : Query) : Session σ Command :=
  conn.command (q.addAction .get)

/-- A cursor over a query. -/
def cursor (conn : Connection σ) (q : Query) : Except Error Cursor :=
  Cursor.of conn.catalog q

/-- The next page of a cursor. -/
def nextPage (conn : Connection σ) (c : Cursor) :
    StateM (World σ) (Cursor × Except Error (Option (List Model))) :=
  c.nextPage conn (conn.loader c.query)

/-- The next record of a cursor. -/
def nextRow (conn : Connection σ) (c : Cursor) :
    StateM (World σ) (Cursor × Except Error (Option (RowKey × Model))) :=
  c.nextRow conn (conn.loader c.query)

/-- All records that a cursor has left. -/
def collect (conn : Connection σ) (c : Cursor) : Session σ RecordSet :=
  c.collect conn (conn.loader c.query)

/-- All records of a query, up to its limit. -/
def all (conn : Connection σ) (q : Query) : Session σ RecordSet :=
  conn.allWith (conn.loader q) q

/-- The first record of a query. That there is none may also be told by a refusal. -/
def one (conn : Connection σ) (q : Query) : Session σ (Option Model) := do
  let q ← ((q.addAction .view).prepare conn.catalog : Except Error Query)
  let c ← conn.command q
  match ← (conn.readOne c).outcome with
  | .ok response =>
    let rows := response.rows conn.config.envelope
    return (← Cursor.materialize conn (conn.loader q) q rows).head?
  | .error (.refused refusal) =>
    if refusal.failure = .notFound then return none else throw (.refused refusal)
  | .error e => throw e

/-- The number of records that the server tells, zero if it tells none. -/
def total (conn : Connection σ) (q : Query) (action : Action) : Session σ Nat := do
  let c ← conn.command (q.addAction action)
  let response ← conn.run c .head
  return (Page.Info.ofResponse conn.config.pageHeaders response).totalCount.getD 0

/-- The number of records of a query. -/
def count (conn : Connection σ) (q : Query) : Session σ Nat := conn.total q .count

/-- Whether a query has a record. -/
def «exists» (conn : Connection σ) (q : Query) : Session σ Bool :=
  return (← conn.total q .exists) > 0

/-- The field whose values make up the column of a query: the one selected, else the first of the
primary key. -/
def columnField? (q : Query) (s : Schema) : Except Error String :=
  match q.select, s.primaryKey with
  | [field], _ => .ok field
  | _, field :: _ => .ok field
  | _, [] => .error (.missingPrimaryKey s.typeName)

/-- One value of each record, keyed as all records are. A field that the records are keyed by is
read along with the one selected. -/
def column (conn : Connection σ) (q : Query) : Session σ (List (RowKey × Json)) := do
  let s ← (q.schema? : Except Error Schema)
  let field ← (columnField? q s : Except Error String)
  let q := match q.index, q.select with
    | some (.field name), [_] => q.addSelect [name]
    | _, _ => q
  let records ← conn.all q
  return records.entries.map fun (key, m) =>
    (key, (KeyMap.get? m.attributes field).getD .null)

/-- A cursor over a query whose pages have a given size, unless the query sets one. -/
def batch (conn : Connection σ) (q : Query) (size : Nat) : Except Error Cursor :=
  conn.cursor { q with perPage := some (q.perPage.getD (min size conn.config.maxPerPage)) }

end RestQuery.Connection
