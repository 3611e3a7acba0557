import RestQuery.Json.Basic
import RestQuery.Text.Ascii

/-!
# Requests

A request carries a method, a path below the base URL of its connection, query pairs, headers and
perhaps a body. Header names keep their case, and are looked up whatever their case.
-/

namespace RestQuery

/-- The method of a request. -/
inductive Method where
  | get
  | head
  | post
  | put
  | delete
  deriving DecidableEq, Repr

/-- The name of a method. -/
def Method.name : Method → String
  | get => "GET"
  | head => "HEAD"
  | post => "POST"
  | put => "PUT"
  | delete => "DELETE"

/-- The method of a name. -/
def Method.ofName? (name : String) : Option Method :=
  [get, head, post, put, delete].find? (·.name == name)

/-- What is sent to a server. -/
structure Request where
  method : Method
  path : String
  query : List (String × String) := []
  headers : KeyMap String := []
  body : Option Json := none
  deriving DecidableEq

namespace Request

/-- What the JSON form of a request tells. -/
def members (r : Request) : List (String × Json) :=
  [("method", .text r.method.name), ("path", .text r.path), ("query", .textPairs r.query),
    ("headers", .textMap r.headers)] ++ (r.body.map fun body => ("body", body)).toList

/-- The request in JSON. -/
def toJson (r : Request) : Json := .ofMembers r.members

/-- The request with some headers put over its own. -/
def withHeaders (r : Request) (headers : KeyMap String) : Request :=
  { r with headers := r.headers.overlay headers }

/-- The value of a header, whatever the case of the name; of several the first in the order of the
names as they are written. -/
def header? (r : Request) (name : String) : Option String :=
  (r.headers.find? fun entry => Text.sameIgnoringCase entry.1 name).map Prod.snd

/-- The value of the first pair of a name. -/
def queryValue? (r : Request) (name : String) : Option String :=
  (r.query.find? fun pair => pair.1 == name).map Prod.snd

end Request

end RestQuery
