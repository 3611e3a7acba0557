import RestQuery.Json.Basic
import RestQuery.Text.Ascii

/-!
# Responses

A response is a status, headers under lower-case names, and a JSON body; no body is `null`.
-/

namespace RestQuery

/-- What a server answered. -/
structure Response where
  status : Nat
  /-- The headers, under names with the letters of ASCII lowered. -/
  headers : KeyMap String := []
  body : Json := .null
  deriving DecidableEq, Inhabited

namespace Response

/-- The response with a header set, in place of one of the same name. -/
def withHeader (r : Response) (name value : String) : Response :=
  { r with headers := KeyMap.insert r.headers (Text.lower name) value }

/-- The value of a header, whatever the case of the name. -/
def header? (r : Response) (name : String) : Option String :=
  KeyMap.get? r.headers (Text.lower name)

/-- Whether the status tells success. -/
def isSuccess (r : Response) : Bool :=
  200 ≤ r.status && r.status < 300

/-- The response in JSON. -/
def toJson (r : Response) : Json :=
  .ofMembers [("status", .nat r.status), ("headers", .textMap r.headers), ("body", r.body)]

/-- The part of the body that holds the rows: what stands under the envelope key if the body is an
object with that key, else the body. -/
def content (envelope : Option String) (body : Json) : Json :=
  match envelope with
  | some key => (body.member? key).getD body
  | none => body

/-- The rows of the answer to a list request. A list holds its items, `null` holds none, and any
other value is a single row. -/
def rows (r : Response) (envelope : Option String) : List Json :=
  match content envelope r.body with
  | .list items => items
  | .null => []
  | row => [row]

end Response

end RestQuery
