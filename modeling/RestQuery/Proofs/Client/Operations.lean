import RestQuery.Model.Persist
import RestQuery.Page.Provider
import RestQuery.Query.Run
import RestQuery.Proofs.Connection.Executes

/-!
# What a client asks of a connection

An `Operation` is all that can be asked of a connection at once: a request, a command or a way to
send it, a query in one of its forms, a page of a listing, a call on a cursor, or a write of a
record. Cursors, commands and records are values in the hands of the client, which can change them
in between. A `Client` asks for one operation after another, depending on all that came of those
before, and may have the connection cancelled in between. `Connection.serve` runs a client and lists
what it was answered.

`Connection.executes_carryOut` says that every operation reaches the backend by executing requests,
with headers that the client gave or those of the credential, and that it stops where one of them is
cancelled.
-/

namespace RestQuery

open Session

/-- A way to send a command. -/
inductive Command.Call where
  | run (method : Method)
  | readAll
  | readOne
  | insert (body : Json)
  | update (key : Option String) (body : Json)
  | remove (key : Option String)

/-- Something that is asked of a connection, by what it leaves in hand whatever becomes of it, and
by what it returns unless it fails. -/
inductive Operation : Type → Type → Type where
  | execute (request : Request) : Operation Unit Response
  | get (path : String) (query : List (String × String)) : Operation Unit Response
  | head (path : String) (query : List (String × String)) : Operation Unit Response
  | post (path : String) (body : Json) : Operation Unit Response
  | put (path : String) (body : Json) : Operation Unit Response
  | delete (path : String) : Operation Unit Response
  | command (q : Query) (params : Parameters) : Operation Unit Command
  | queryCommand (q : Query) : Operation Unit Command
  | send (c : Command) (call : Command.Call) : Operation Unit Response
  | all (q : Query) : Operation Unit RecordSet
  | one (q : Query) : Operation Unit (Option Model)
  | count (q : Query) : Operation Unit Nat
  | «exists» (q : Query) : Operation Unit Bool
  | column (q : Query) : Operation Unit (List (RowKey × Json))
  | fetch (l : Listing) (number : Nat) : Operation Unit Page
  | nextPage (c : Cursor) : Operation Cursor (Option (List Model))
  | nextRow (c : Cursor) : Operation Cursor (Option (RowKey × Model))
  | collect (c : Cursor) : Operation Unit RecordSet
  | insertModel (m : Model) : Operation Model Unit
  | updateModel (m : Model) : Operation Model Bool
  | deleteModel (m : Model) : Operation Model Unit

/-- The headers that the client gives with an operation. -/
def Operation.headers {κ α : Type} : Operation κ α → KeyMap String
  | .execute request => request.headers
  | .send c _ => c.descriptor.headers
  | _ => []

/-- Someone who asks for one operation after another, and may have the connection cancelled. -/
inductive Client : Type 1 where
  | done
  | ask {κ α : Type} (op : Operation κ α) (next : κ × Except Error α → Client)
  | cancel (next : Client)
  | cancelAfter (wait : Nat) (next : Client)
  | cancelAfterRequests (count : Nat) (next : Client)

/-- An operation with what came of it. -/
structure Answered : Type 1 where
  {κ : Type}
  {α : Type}
  op : Operation κ α
  result : κ × Except Error α

/-- A session that leaves nothing in hand. -/
def Session.alone {σ α : Type} (a : Session σ α) : StateM (World σ) (Unit × Except Error α) := do
  return ((), ← a.run)

namespace Connection

variable {σ κ α β : Type}

/-- Sends a command in some way. -/
def sendBy (conn : Connection σ) (c : Command) : Command.Call → Session σ Response
  | .run method => conn.run c method
  | .readAll => conn.readAll c
  | .readOne => conn.readOne c
  | .insert body => conn.insert c body
  | .update key body => conn.update c key body
  | .remove key => conn.remove c key

/-- Does what is asked. -/
def carryOut (conn : Connection σ) :
    {κ α : Type} → Operation κ α → StateM (World σ) (κ × Except Error α)
  | _, _, .execute request => alone (conn.execute request)
  | _, _, .get path query => alone (conn.get path query)
  | _, _, .head path query => alone (conn.head path query)
  | _, _, .post path body => alone (conn.post path body)
  | _, _, .put path body => alone (conn.put path body)
  | _, _, .delete path => alone (conn.delete path)
  | _, _, .command q params => alone (conn.command q params)
  | _, _, .queryCommand q => alone (conn.queryCommand q)
  | _, _, .send c call => alone (conn.sendBy c call)
  | _, _, .all q => alone (conn.all q)
  | _, _, .one q => alone (conn.one q)
  | _, _, .count q => alone (conn.count q)
  | _, _, .«exists» q => alone (conn.exists q)
  | _, _, .column q => alone (conn.column q)
  | _, _, .fetch l number => alone (l.fetch conn number)
  | _, _, .nextPage c => conn.nextPage c
  | _, _, .nextRow c => conn.nextRow c
  | _, _, .collect c => alone (conn.collect c)
  | _, _, .insertModel m => m.insert conn
  | _, _, .updateModel m => m.update conn
  | _, _, .deleteModel m => m.delete conn

/-- Serves a client from a world on: what it is answered, and the world after it. -/
def serve (conn : Connection σ) : Client → World σ → List Answered × World σ
  | .done, w => ([], w)
  | .ask op next, w =>
    let (result, w) := (conn.carryOut op).run w
    let (answers, w) := serve conn (next result) w
    (⟨op, result⟩ :: answers, w)
  | .cancel next, w => serve conn next (eval cancel w).2
  | .cancelAfter wait next, w => serve conn next (eval (cancelAfter wait) w).2
  | .cancelAfterRequests count next, w => serve conn next (eval (cancelAfterRequests count) w).2

variable (conn : Connection σ) (w : World σ)

theorem serve_ask {op : Operation κ α} {result : κ × Except Error α} {w after : World σ}
    (h : (conn.carryOut op).run w = (result, after)) (next : κ × Except Error α → Client) :
    conn.serve (.ask op next) w =
      (⟨op, result⟩ :: (conn.serve (next result) after).1, (conn.serve (next result) after).2) := by
  rw [serve, h]

/-! ## What an operation executes -/

/-- Whether the headers of a request are those that were given, or those of the credential if none
were. -/
def HeadsWith (conn : Connection σ) (given : KeyMap String) (r : Request) : Prop :=
  r.headers = given ∨ given = [] ∧ ∃ asked, r.headers = conn.auth.headers asked

/-- Whether the result of an operation is that of something cancelled. -/
def Interrupted (result : κ × Except Error α) : Prop := Cancelled result.2

variable {conn : Connection σ} {P : Request → Prop}

/-- A session that leaves nothing in hand executes what it does anyhow. -/
theorem Executes.alone {a : Session σ α} (h : conn.Executes P Cancelled a.run) :
    conn.Executes P Interrupted (alone a) :=
  h.andThen (fun _ => .done _) fun outcome hx => ⟨((), outcome), hx, rfl⟩

/-- An outcome that is taken as a value executes what leads to it, if a cancellation is passed on.
-/
theorem Executes.outcome {a : Session σ α} {next : Except Error α → Session σ β}
    (h : conn.Executes P Cancelled a.run)
    (hnext : ∀ x, conn.Executes P Cancelled (next x).run)
    (hstop : next (.error .cancelled) = throw .cancelled) :
    conn.Executes P Cancelled (a.outcome >>= next).run := by
  have hrun : (a.outcome >>= next).run = a.run >>= fun x => (next x).run := rfl
  rw [hrun]
  refine h.andThen hnext ?_
  rintro _ rfl
  exact ⟨_, rfl, by rw [hstop]; rfl⟩

/-- Nothing is executed for a command. -/
theorem executes_command (conn : Connection σ) (q : Query) (params : Parameters) :
    conn.Executes (conn.HeadsWith []) Cancelled (conn.command q params).run := by
  rw [← bind_pure (conn.command q params)]
  exact .command fun _ _ => .done _

/-- A page is asked for with the credential. -/
theorem executes_fetch (conn : Connection σ) (c : Cursor) :
    conn.Executes (conn.HeadsWith []) Cancelled (c.fetch conn).run :=
  .command fun _ asked => .request (.inr ⟨rfl, asked, rfl⟩)

theorem executes_loader (conn : Connection σ) (q : Query) (models : List Model) :
    conn.Executes (conn.HeadsWith []) Cancelled (conn.loader q models).run :=
  (conn.closed_executes _).loader conn.executes_fetch q models

theorem executes_materialize (conn : Connection σ) (p q : Query) (rows : List Json) :
    conn.Executes (conn.HeadsWith []) Cancelled
      (Cursor.materialize conn (conn.loader p) q rows).run :=
  (conn.closed_executes _).materialize (conn.executes_loader p) q rows

theorem executes_all (conn : Connection σ) (q : Query) :
    conn.Executes (conn.HeadsWith []) Cancelled (conn.all q).run :=
  (conn.closed_executes _).all conn.executes_fetch q

theorem executes_collect (conn : Connection σ) (c : Cursor) :
    conn.Executes (conn.HeadsWith []) Cancelled (conn.collect c).run := by
  have hclosed := conn.closed_executes (conn.HeadsWith [])
  exact hclosed.drain (hclosed.readPage conn.executes_fetch (conn.executes_loader _))
    conn.pageBudget .empty c

/-- A call for the next page executes the request for it, and those for its relations. -/
theorem executes_nextPage (conn : Connection σ) (c : Cursor) :
    conn.Executes (conn.HeadsWith []) Interrupted (conn.nextPage c) := by
  rw [nextPage, Cursor.nextPage_eq]
  cases c.advance? conn.config with
  | none => exact .done _
  | some asked =>
    refine (conn.executes_fetch asked).andThen (fun reply => ?_) ?_
    · cases reply with
      | error e => exact .done _
      | ok response =>
        refine (conn.executes_materialize _ _ _).andThen (fun read => ?_) ?_
        · cases read with
          | error e => exact .done _
          | ok models => exact .done _
        · rintro _ rfl
          exact ⟨(_, .error .cancelled), rfl, rfl⟩
    · rintro _ rfl
      exact ⟨(asked, .error .cancelled), rfl, rfl⟩

/-- A call for the next record executes what one for the next page does, if it asks for a page. -/
theorem executes_nextRow (conn : Connection σ) (c : Cursor) :
    conn.Executes (conn.HeadsWith []) Interrupted (conn.nextRow c) := by
  unfold nextRow Cursor.nextRow
  split
  · exact .done _
  · refine (conn.executes_nextPage c).andThen (fun result => ?_) ?_
    · obtain ⟨d, e | _ | models⟩ := result
      · exact .done _
      · exact .done _
      · dsimp only
        split
        · exact .done _
        · exact .done _
    · rintro ⟨d, _⟩ rfl
      exact ⟨(d, .error .cancelled), rfl, rfl⟩

/-- The headers of the request for one record are those of its command. -/
theorem headers_itemDescriptor (c : Command) : c.itemDescriptor.headers = c.descriptor.headers := by
  unfold Command.itemDescriptor
  split
  · rfl
  · rfl

/-- The first record is asked for with the credential, and a cancellation is passed on. -/
theorem executes_one (conn : Connection σ) (q : Query) :
    conn.Executes (conn.HeadsWith []) Cancelled (conn.one q).run := by
  unfold one
  refine (Executes.lift _).bind fun prepared => .command fun d asked => ?_
  refine Executes.outcome (.request (.inr ⟨rfl, asked, headers_itemDescriptor _⟩))
    (fun reply => ?_) rfl
  split
  · exact (conn.executes_materialize _ _ _).bind fun models => .done _
  · split
    · exact .done _
    · exact .done _
  · exact .done _

theorem executes_total (conn : Connection σ) (q : Query) (action : Action) :
    conn.Executes (conn.HeadsWith []) Cancelled (conn.total q action).run :=
  .command fun _ asked => (Executes.request (.inr ⟨rfl, asked, rfl⟩)).bind fun _ => .done _

theorem executes_column (conn : Connection σ) (q : Query) :
    conn.Executes (conn.HeadsWith []) Cancelled (conn.column q).run :=
  (Executes.lift _).bind fun _ => (Executes.lift _).bind fun _ =>
    (conn.executes_all _).bind fun _ => .done _

/-- A page of a listing is asked for with the credential. -/
theorem executes_listing (conn : Connection σ) (l : Listing) (number : Nat) :
    conn.Executes (conn.HeadsWith []) Cancelled (l.fetch conn number).run := by
  unfold Listing.fetch
  refine (Executes.lift _).bind fun q => .command fun d asked => ?_
  refine (Executes.request (.inr ⟨rfl, asked, rfl⟩)).bind fun response => ?_
  dsimp only
  split
  · exact .done _
  · exact (conn.executes_materialize _ _ _).bind fun models => .done _

/-- A command is sent with its own headers. -/
theorem executes_sendBy (conn : Connection σ) (c : Command) (call : Command.Call) :
    conn.Executes (conn.HeadsWith c.descriptor.headers) Cancelled (conn.sendBy c call).run := by
  cases call with
  | run method => exact .request (.inl rfl)
  | readAll => exact .request (.inl rfl)
  | readOne => exact .request (.inl (headers_itemDescriptor c))
  | insert body => exact .request (.inl rfl)
  | update key body => exact .request (.inl rfl)
  | remove key => exact .request (.inl rfl)

/-- A request after which something is handed back executes what the request does, if a cancellation
is handed back. -/
theorem Executes.handBack {a : Session σ Response}
    {next : Except Error Response → StateM (World σ) (κ × Except Error α)}
    (h : conn.Executes P Cancelled a.run) (hnext : ∀ reply, ∃ result, next reply = pure result)
    (hstop : ∃ kept, next (.error .cancelled) = pure (kept, .error .cancelled)) :
    conn.Executes P Interrupted (a.run >>= next) := by
  refine h.andThen (fun reply => ?_) ?_
  · obtain ⟨result, hresult⟩ := hnext reply
    rw [hresult]
    exact .done _
  · rintro _ rfl
    obtain ⟨kept, hkept⟩ := hstop
    exact ⟨(kept, .error .cancelled), rfl, hkept⟩

/-- The writes of a record are sent with the credential. -/
theorem executes_insert (conn : Connection σ) (m : Model) :
    conn.Executes (conn.HeadsWith []) Interrupted (m.insert conn) :=
  .handBack (.command fun _ asked => .request (.inr ⟨rfl, asked, rfl⟩))
    (fun reply => by cases reply <;> exact ⟨_, rfl⟩) ⟨m, rfl⟩

theorem executes_update (conn : Connection σ) (m : Model) :
    conn.Executes (conn.HeadsWith []) Interrupted (m.update conn) := by
  unfold Model.update
  split
  · exact .done _
  · exact .handBack
      ((Executes.lift _).bind fun _ => .command fun _ asked => .request (.inr ⟨rfl, asked, rfl⟩))
      (fun reply => by cases reply <;> exact ⟨_, rfl⟩) ⟨m, rfl⟩

theorem executes_delete (conn : Connection σ) (m : Model) :
    conn.Executes (conn.HeadsWith []) Interrupted (m.delete conn) :=
  .handBack
    ((Executes.lift _).bind fun _ => .command fun _ asked => .request (.inr ⟨rfl, asked, rfl⟩))
    (fun reply => by cases reply <;> exact ⟨_, rfl⟩) ⟨m, rfl⟩

/-- Every operation reaches the backend by executing requests with the headers that were given with
it, or with those of the credential, and stops where one of them is cancelled. -/
theorem executes_carryOut (conn : Connection σ) (op : Operation κ α) :
    conn.Executes (conn.HeadsWith op.headers) Interrupted (conn.carryOut op) := by
  cases op with
  | execute request => exact .alone (.request (.inl rfl))
  | get path query => exact .alone (.request (.inl rfl))
  | head path query => exact .alone (.request (.inl rfl))
  | post path body => exact .alone (.request (.inl rfl))
  | put path body => exact .alone (.request (.inl rfl))
  | delete path => exact .alone (.request (.inl rfl))
  | command q params => exact .alone (conn.executes_command q params)
  | queryCommand q => exact .alone (conn.executes_command _ [])
  | send c call => exact .alone (conn.executes_sendBy c call)
  | all q => exact .alone (conn.executes_all q)
  | one q => exact .alone (conn.executes_one q)
  | count q => exact .alone (conn.executes_total q .count)
  | «exists» q => exact .alone ((conn.executes_total q .exists).bind fun _ => .done _)
  | column q => exact .alone (conn.executes_column q)
  | fetch l number => exact .alone (conn.executes_listing l number)
  | nextPage c => exact conn.executes_nextPage c
  | nextRow c => exact conn.executes_nextRow c
  | collect c => exact .alone (conn.executes_collect c)
  | insertModel m => exact conn.executes_insert m
  | updateModel m => exact conn.executes_update m
  | deleteModel m => exact conn.executes_delete m

end Connection

end RestQuery
