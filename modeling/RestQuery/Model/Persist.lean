import RestQuery.Connection.Command

/-!
# Storing records

A new record is posted to its collection, and what the server answers is taken over. A stored record
is addressed by the key that the server holds it under; only attributes that differ from those the
server holds are sent.

A write works on the record in hand, and hands it back whatever becomes of the request. It changes
the record only once the request is answered, so one that fails leaves the record as it was.
-/

namespace RestQuery

namespace Model

/-- The key that a write addresses the record by. -/
def addressKey? (m : Model) : Except Error String :=
  match m.keySegment? with
  | some key => .ok key
  | none => .error (.missingPrimaryKey m.schema.typeName)

/-- The query for the records that belong to the model through a relation. -/
def relatedQuery (g : Catalog) (m : Model) (name : String) : Except Error Query :=
  (m.schema.relation? name).map fun relation =>
    relation.link.foldl (fun q (targetField, localField) =>
      q.whereEq targetField ((KeyMap.get? m.attributes localField).getD .null))
      (Query.of (g.target relation))

end Model

namespace Connection

variable {σ : Type}

/-- The command for a write of a record. -/
def modelCommand (conn : Connection σ) (m : Model) (action : Action) : Session σ Command :=
  conn.command ((Query.of m.schema).acting action)

/-- Posts the attributes of a record that differ. -/
def postModel (conn : Connection σ) (m : Model) : Session σ Response := do
  let c ← conn.modelCommand m .insert
  conn.insert c (.object m.dirty)

/-- Puts the attributes of a record that differ under its key. -/
def putModel (conn : Connection σ) (m : Model) : Session σ Response := do
  let key ← (m.addressKey? : Except Error String)
  let c ← conn.modelCommand m .update
  conn.update c (some key) (.object m.dirty)

/-- Removes what is under the key of a record. -/
def removeModel (conn : Connection σ) (m : Model) : Session σ Response := do
  let key ← (m.addressKey? : Except Error String)
  let c ← conn.modelCommand m .delete
  conn.remove c (some key)

end Connection

namespace Model

variable {σ : Type}

/-- Posts the attributes of the record and takes over the answer. -/
def insert (conn : Connection σ) (m : Model) : StateM (World σ) (Model × Except Error Unit) := do
  match ← (conn.postModel m).run with
  | .error e => return (m, .error e)
  | .ok response =>
    let m := m.absorb response.body
    return (m.markClean, .ok ())

/-- Puts the changed attributes of the record. Returns whether anything was sent. -/
def update (conn : Connection σ) (m : Model) : StateM (World σ) (Model × Except Error Bool) := do
  if m.dirty.isEmpty then return (m, .ok false)
  match ← (conn.putModel m).run with
  | .error e => return (m, .error e)
  | .ok _ => return (m.markClean, .ok true)

/-- Deletes the record, which is new from then on. -/
def delete (conn : Connection σ) (m : Model) : StateM (World σ) (Model × Except Error Unit) := do
  match ← (conn.removeModel m).run with
  | .error e => return (m, .error e)
  | .ok _ => return (m.forget, .ok ())

end Model

namespace Connection

variable {σ : Type}

/-- What the record is after it was inserted. -/
def insertModel (conn : Connection σ) (m : Model) : Session σ Model := do
  let (m, outcome) ← ExceptT.lift (m.insert conn)
  let _ ← (outcome : Except Error Unit)
  return m

/-- What the record is after its changes were put, and whether there were any. -/
def updateModel (conn : Connection σ) (m : Model) : Session σ (Model × Bool) := do
  let (m, outcome) ← ExceptT.lift (m.update conn)
  return (m, ← (outcome : Except Error Bool))

/-- What the record is after it was deleted. -/
def deleteModel (conn : Connection σ) (m : Model) : Session σ Model := do
  let (m, outcome) ← ExceptT.lift (m.delete conn)
  let _ ← (outcome : Except Error Unit)
  return m

end Connection

end RestQuery
