import RestQuery.Error
import RestQuery.Http.Request
import RestQuery.Json.Reader
import RestQuery.Json.Text
import RestQuery.Url.Target

/-!
# Exchanges over HTTP

A request below a base URL becomes a message: a method, a target, headers under lower-case names and
a body in JSON. A reply becomes a response, whose body is read as JSON where it is JSON and kept as
a text where it is not.

`Http.answer` makes a backend of a server, which is given by its reply to every message. Its state
is the list of the messages that arrived.
-/

namespace RestQuery.Http

/-- What arrives at a server. -/
structure Message where
  method : Method
  target : String
  /-- The headers in the order in which they were added, under names in lower case. -/
  headers : List (String × String)
  body : String

/-- What a server replies. -/
structure Reply where
  status : Nat
  headers : List (String × String) := []
  body : String := ""

/-- Whether a character can stand in the name of a header. -/
def isNameChar (c : Char) : Bool :=
  c.isAlphanum || "!#$%&'*+-.^_|~".toList.contains c || c == '\x60'

/-- Whether a text can be the name of a header. -/
def isHeaderName (s : String) : Bool := s ≠ "" && s.toList.all isNameChar

/-- Whether a text can be the value of a header. -/
def isHeaderValue (s : String) : Bool :=
  s.toList.all fun c => c == '\t' || (0x20 ≤ c.toNat && c.toNat != 0x7F)

/-- Whether a header can be sent. -/
def isHeader (header : String × String) : Bool :=
  isHeaderName header.1 && isHeaderValue header.2

/-- Whether the value of a header can be read as a text. -/
def isPlainValue (s : String) : Bool :=
  s.toList.all fun c => c == '\t' || (0x20 ≤ c.toNat && c.toNat < 0x7F)

/-- The value of a header without blanks around it. -/
def headerValue (s : String) : String :=
  String.ofList (Text.stripWhile (fun c => c == ' ' || c == '\t') s.toList)

/-- The URL of a path below a base URL. -/
def urlOf (baseUrl path : String) : String := baseUrl ++ "/" ++ Text.trimStartChar '/' path

/-- The headers of a message. A request asks for JSON, and tells that its body is JSON unless it
tells what else it is. -/
def messageHeaders (r : Request) : List (String × String) :=
  let own := r.headers.map fun (name, value) => (Text.lower name, value)
  let content :=
    if r.body.isSome && !own.any (·.1 == "content-type") then
      [("content-type", "application/json")]
    else []
  ("accept", "application/json") :: own ++ content

/-- The message for a request to a URL, unless the URL or a header is malformed. -/
def message? (url : String) (r : Request) : Option Message :=
  match Url.check url with
  | .error _ => none
  | .ok () =>
    if r.headers.all isHeader then
      some {
        method := r.method
        target := ((Url.parts url).withPairs r.query).target
        headers := messageHeaders r
        body := (r.body.map Json.compact).getD "" }
    else none

/-- The depth to which the body of a reply is read as JSON. -/
def bodyDepth : Nat := 127

/-- The body that a text stands for. -/
def decodeBody (s : String) : Json :=
  if Text.trim s = "" then .null else (Json.parse? bodyDepth s).getD (.text s)

/-- Whether the reply to a method has a body. -/
def Reply.hasBody (reply : Reply) (method : Method) : Bool :=
  method ≠ .head && reply.status ≠ 204 && reply.status ≠ 304

/-- The response that a reply stands for. Of several headers of one name the last counts, and those
that cannot be read as texts are left out. -/
def Reply.response (reply : Reply) (method : Method) : Response :=
  let readable := reply.headers.filter fun header => isPlainValue header.2
  let start : Response :=
    { status := reply.status
      body := if reply.hasBody method then decodeBody reply.body else .null }
  readable.foldl (fun r (name, value) => r.withHeader name (headerValue value)) start

/-- The error for a request that was not answered. -/
def unanswered (r : Request) (url reason : String) : Error :=
  .transport (r.method.name ++ " " ++ url ++ " failed: " ++ reason)

/-- The backend that a server is for requests below a base URL. A server that gives no reply, or
one with malformed headers, does not answer. -/
def answer (baseUrl : String) (server : Message → Option Reply) (r : Request)
    (arrived : List Message) : Except Error Response × List Message :=
  let url := urlOf baseUrl r.path
  match message? url r with
  | none => (.error (unanswered r url "builder error"), arrived)
  | some message =>
    let silent := unanswered r url ("error sending request for url (" ++
      ((Url.parts url).withPairs r.query).text ++ ")")
    let result := match server message with
      | some reply =>
        if reply.headers.all isHeader then .ok (reply.response r.method) else .error silent
      | none => .error silent
    (result, arrived ++ [message])

end RestQuery.Http
