import RestQuery.Config.Basic
import RestQuery.Credential
import RestQuery.Http.Request
import RestQuery.Schema.Basic

/-!
# Connections

A connection sends requests to one backend. The backend is any function that answers a request and
goes on to a further state of its own, so everything said of connections holds for every backend.

`World` is all that changes while a connection is used. Time is counted in milliseconds and passes
only in waits between retries. A cancellation comes at once, at some time in a wait, or while some
request is under way.

`Connection.execute` sends one request, attaches the credential unless the request has one, and
tries again as the policy allows. Every attempt, and every wait, is stopped by a cancellation. A
request that is under way is not: it is answered, and what would follow is stopped.
-/

namespace RestQuery

/-- A request that reached the backend. -/
structure Sent where
  time : Nat
  request : Request

/-- The request with the time at which it was sent, in JSON. -/
def Sent.toJson (s : Sent) : Json := .ofMembers (("at_ms", .nat s.time) :: s.request.members)

/-- What changes while a connection to a backend with states `σ` is used. -/
structure World (σ : Type) where
  backend : σ
  /-- The requests that reached the backend, in order. -/
  sent : List Sent := []
  /-- The time that has passed. -/
  clock : Nat := 0
  /-- How often the credential was asked for. -/
  asked : Nat := 0
  /-- The time at which the connection will be cancelled, if it will. -/
  cancelAt : Option Nat := none
  /-- The number of the request, counted from zero, during which the connection will be cancelled,
  if it will. -/
  cancelDuring : Option Nat := none
  cancelled : Bool := false
  /-- The latest response to the request executed last, if any of its attempts had one. -/
  lastResponse : Option Response := none

/-- Something done over a connection. -/
abbrev Session (σ α : Type) := ExceptT Error (StateM (World σ)) α

/-- How something turned out, as a value. -/
def Session.outcome {σ α : Type} (a : Session σ α) : Session σ (Except Error α) :=
  ExceptT.lift a.run

/-- A backend with states `σ` and how to reach it. -/
structure Connection (σ : Type) where
  /-- The types of records that the backend serves. -/
  catalog : Catalog
  config : Config
  auth : Auth
  /-- What the backend answers. An error means that there is no answer. -/
  answer : Request → σ → Except Error Response × σ
  /-- The moment at which the clock stood at zero, in milliseconds since 1970. -/
  epoch : Int := 0
  /-- The greatest number of pages that a drained cursor may read. -/
  pageBudget : Nat

namespace Connection

variable {σ : Type}

/-- The headers that carry the credential; a source is asked once. -/
def credentialHeaders (conn : Connection σ) : Session σ (KeyMap String) := do
  let w ← get
  set { w with asked := w.asked + 1 }
  return conn.auth.headers w.asked

/-- The request with the credential, unless it carries one already. -/
def authorize (conn : Connection σ) (request : Request) : Session σ Request := do
  if (request.header? "authorization").isSome then return request
  else return request.withHeaders (← conn.credentialHeaders)

/-- Hands a request to the backend, and classifies the answer by its status. A cancellation that
comes meanwhile does not hold up the answer. -/
def exchange (conn : Connection σ) (request : Request) : Session σ Response := do
  let w ← get
  let (reply, backend) := conn.answer request w.backend
  set { w with
    backend := backend
    sent := w.sent ++ [Sent.mk w.clock request]
    cancelled := w.cancelled || w.cancelDuring == some w.sent.length }
  (reply.bind Response.check : Except Error Response)

/-- Sets the response that is held for later inspection. -/
def remember (r : Option Response) : Session σ Unit :=
  modify fun w => { w with lastResponse := r }

/-- The longest time that passes in one wait, in milliseconds: thirty years of 365 days. -/
def longestPause : Nat := 946080000000

/-- Lets time pass. A cancellation that is due before the end of the wait ends it, and one that came
before it lets no time pass. -/
def pause (wait : Nat) : Session σ Unit := do
  let w ← get
  if w.cancelled then throw .cancelled
  let wait := min wait longestPause
  match w.cancelAt with
  | some due =>
    if due < w.clock + wait then
      set { w with clock := max w.clock due, cancelled := true }
      throw .cancelled
    else set { w with clock := w.clock + wait }
  | none => set { w with clock := w.clock + wait }

/-- How one attempt at a request ended, where the request is not given up. -/
inductive Attempt where
  | answered (response : Response)
  /-- The attempt failed, and another is due after a wait. -/
  | again (e : Error) (wait : Nat)

/-- Sends a request once, after so many retries and waits. Gives up on an error after which the
policy allows no retry. -/
def attemptOnce (conn : Connection σ) (request : Request) (retries waited : Nat) :
    Session σ Attempt := do
  if (← get).cancelled then throw .cancelled
  match ← (conn.exchange request).outcome with
  | .ok response =>
    remember (some response)
    return .answered response
  | .error e =>
    if let some refusal := e.refusal? then remember (some refusal.response)
    let moment := conn.epoch + (← get).clock
    match conn.config.retry.nextWait? moment e retries waited with
    | some wait => return .again e wait
    | none => throw e

/-- Sends a request, after so many retries and waits, with at most so many retries to go. -/
def attempt (conn : Connection σ) (request : Request) (retries waited : Nat) :
    Nat → Session σ Response
  | 0 => do
    match ← conn.attemptOnce request retries waited with
    | .answered response => return response
    | .again e _ => throw e
  | remaining + 1 => do
    match ← conn.attemptOnce request retries waited with
    | .answered response => return response
    | .again _ wait =>
      pause wait
      attempt conn request (retries + 1) (waited + wait) remaining

/-- Sends a request, and again as long as it fails and the policy allows. -/
def execute (conn : Connection σ) (request : Request) : Session σ Response := do
  let request ← conn.authorize request
  remember none
  conn.attempt request 0 0 conn.config.retry.maxRetries

/-- Cancels the connection. -/
def cancel : Session σ Unit :=
  modify fun w => { w with cancelled := true }

/-- Has the connection cancelled once so much time has passed, at most that of the longest wait, or
earlier if that was asked for. -/
def cancelAfter (wait : Nat) : Session σ Unit :=
  modify fun w =>
    let due := w.clock + min wait longestPause
    { w with cancelAt := some ((w.cancelAt.map (min · due)).getD due) }

/-- Has the connection cancelled while a request is under way, after so many other ones, or earlier
if that was asked for. -/
def cancelAfterRequests (count : Nat) : Session σ Unit :=
  modify fun w =>
    let due := w.sent.length + count
    { w with cancelDuring := some ((w.cancelDuring.map (min · due)).getD due) }

/-- Reads a path. -/
def get (conn : Connection σ) (path : String) (query : List (String × String)) :
    Session σ Response :=
  conn.execute { method := .get, path := path, query := query }

/-- Reads the headers of a path. -/
def head (conn : Connection σ) (path : String) (query : List (String × String)) :
    Session σ Response :=
  conn.execute { method := .head, path := path, query := query }

/-- Posts a body to a path. -/
def post (conn : Connection σ) (path : String) (body : Json) : Session σ Response :=
  conn.execute { method := .post, path := path, body := some body }

/-- Puts a body to a path. -/
def put (conn : Connection σ) (path : String) (body : Json) : Session σ Response :=
  conn.execute { method := .put, path := path, body := some body }

/-- Deletes a path. -/
def delete (conn : Connection σ) (path : String) : Session σ Response :=
  conn.execute { method := .delete, path := path }

end Connection

end RestQuery
