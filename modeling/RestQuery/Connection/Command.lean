import RestQuery.Connection.Basic
import RestQuery.Query.Request

/-!
# Commands

A command is a compiled query over a connection, ready to be sent in different ways: as a list
request, as a request for one record, or as a write.

A request for one record by its key alone, or by its key and more, is sent to the path of that
record: the comparison with the key leaves the filter and becomes the last segment of the path.
-/

namespace RestQuery

/-- A compiled query, with the type that it reads. -/
structure Command where
  descriptor : Descriptor
  schema : Option Schema := none

namespace Command

/-- The key that the filter compares for equality, if the type has a primary key of one field and
the filter asks nothing else of that field. -/
def key? (c : Command) : Option (String × String) := do
  let s ← c.schema
  let field ← match s.primaryKey with
    | [field] => some field
    | _ => none
  let filter ← c.descriptor.clauses.filter
  match ← KeyMap.get? filter field with
  | .object [("eq", value)] =>
    if value.isList || value.isObject || value.isNull then none else some (field, value.keyText)
  | _ => none

/-- The path of the item with a key below a collection. -/
def itemPath (collection key : String) : String := collection ++ "/" ++ Key.segment key

/-- The descriptor for one record: with the key in the path instead of the filter if there is one
to be had. -/
def itemDescriptor (c : Command) : Descriptor :=
  match c.key? with
  | none => c.descriptor
  | some (field, key) =>
    let filter := (c.descriptor.clauses.filter.getD []).erase field
    { c.descriptor with
      uri := itemPath c.descriptor.uri key
      clauses := { c.descriptor.clauses with
        filter := if filter.isEmpty then none else some filter } }

/-- The path that a write goes to: that of the item if a key is given that is not empty, else that
of the collection. -/
def writePath (c : Command) (key : Option String) : String :=
  match key with
  | some key => if key = "" then c.descriptor.uri else itemPath c.descriptor.uri key
  | none => c.descriptor.uri

end Command

/-- The request for a descriptor. -/
def Descriptor.request (d : Descriptor) (method : Method) : Request :=
  { method := method, path := d.uri, query := d.clauses.pairs, headers := d.headers }

namespace Connection

variable {σ : Type}

/-- Compiles a query, under some parameters, and attaches the credential. -/
def command (conn : Connection σ) (q : Query) (params : Parameters := []) : Session σ Command := do
  let descriptor ← (q.describe conn.catalog conn.config params : Except Error Descriptor)
  let headers ← conn.credentialHeaders
  return { descriptor := { descriptor with headers := headers }, schema := q.schema }

/-- Sends the command with a method. -/
def run (conn : Connection σ) (c : Command) (method : Method) : Session σ Response :=
  conn.execute (c.descriptor.request method)

/-- Reads the collection. -/
def readAll (conn : Connection σ) (c : Command) : Session σ Response := conn.run c .get

/-- Reads one record. -/
def readOne (conn : Connection σ) (c : Command) : Session σ Response :=
  conn.execute (c.itemDescriptor.request .get)

/-- Adds a record to the collection. -/
def insert (conn : Connection σ) (c : Command) (body : Json) : Session σ Response :=
  conn.execute { method := .post, path := c.descriptor.uri, headers := c.descriptor.headers,
                 body := some body }

/-- Changes the record with a key. -/
def update (conn : Connection σ) (c : Command) (key : Option String) (body : Json) :
    Session σ Response :=
  conn.execute { method := .put, path := c.writePath key, headers := c.descriptor.headers,
                 body := some body }

/-- Removes the record with a key. -/
def remove (conn : Connection σ) (c : Command) (key : Option String) : Session σ Response :=
  conn.execute { method := .delete, path := c.writePath key, headers := c.descriptor.headers }

end Connection

end RestQuery
