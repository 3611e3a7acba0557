import RestQuery.Proofs.Connection.Sends
import RestQuery.Proofs.Page.Composed

/-!
# What reaches the backend by executing requests

Whatever is done over a connection, the backend is reached in one way only: a request is executed.
`Connection.Executes` says so of something done over a connection, as a tree: it is done with, or it
asks for the credential, or it executes a request, and goes on with what it got. The requests may be
known to have a property, and what is done must stop where a request is cancelled, with an outcome
that tells so.

So what is to be said of all that can be done over a connection is shown for the execution of one
request, and follows by induction on the tree: which requests are sent (`Executes.adds`), and which
worlds cannot be told apart (`Executes.respects`).
-/

namespace RestQuery

open Session

/-- Whether an outcome is that of something cancelled. -/
def Session.Cancelled {α : Type} (outcome : Except Error α) : Prop := outcome = .error .cancelled

namespace Connection

variable {σ α β : Type}

/-- Whether something done over a connection reaches the backend by executing requests that have a
property, and stops where one of them is cancelled. -/
inductive Executes (conn : Connection σ) (P : Request → Prop) (Stopped : α → Prop) :
    StateM (World σ) α → Prop where
  | done (x : α) : Executes conn P Stopped (pure x)
  | credential {next : Except Error (KeyMap String) → StateM (World σ) α}
      (h : ∀ asked, Executes conn P Stopped (next (.ok (conn.auth.headers asked)))) :
      Executes conn P Stopped (conn.credentialHeaders.run >>= next)
  | execute {request : Request} {next : Except Error Response → StateM (World σ) α}
      (hP : P request) (hstop : ∃ x, Stopped x ∧ next (.error .cancelled) = pure x)
      (h : ∀ reply, Executes conn P Stopped (next reply)) :
      Executes conn P Stopped ((conn.execute request).run >>= next)

/-- Whether a request is one that has a property, as it is sent from some world. -/
def Issues (conn : Connection σ) (P : Request → Prop) (r : Request) : Prop :=
  ∃ (request : Request) (w : World σ), P request ∧ r = conn.authorized request w

variable {conn : Connection σ} {P : Request → Prop} {Stopped : α → Prop} {Halted : β → Prop}
  {w : World σ}

namespace Executes

/-- A sequence executes what its parts do, if the second part does nothing after a cancellation in
the first. -/
theorem andThen {a : StateM (World σ) α} {next : α → StateM (World σ) β}
    (ha : conn.Executes P Stopped a) (hnext : ∀ x, conn.Executes P Halted (next x))
    (hhalt : ∀ x, Stopped x → ∃ y, Halted y ∧ next x = pure y) :
    conn.Executes P Halted (a >>= next) := by
  induction ha with
  | done x =>
    rw [pure_bind]
    exact hnext x
  | credential h ih =>
    rw [bind_assoc]
    exact .credential ih
  | execute hP hstop h ih =>
    rw [bind_assoc]
    refine .execute hP ?_ ih
    obtain ⟨x, hx, hend⟩ := hstop
    obtain ⟨y, hy, hrest⟩ := hhalt x hx
    exact ⟨y, hy, by rw [hend, pure_bind, hrest]⟩

/-- A sequence that stops at a failure stops at a cancellation. -/
theorem bind {a : Session σ α} {next : α → Session σ β} (ha : conn.Executes P Cancelled a.run)
    (hnext : ∀ x, conn.Executes P Cancelled (next x).run) :
    conn.Executes P Cancelled (a >>= next).run := by
  have hrest : ∀ outcome, conn.Executes P Cancelled (ExceptT.bindCont next outcome) := by
    intro outcome
    cases outcome with
    | ok x => exact hnext x
    | error e => exact .done _
  refine ha.andThen hrest ?_
  rintro _ rfl
  exact ⟨_, rfl, rfl⟩

theorem lift (x : Except Error α) : conn.Executes P Cancelled (liftM x : Session σ α).run := by
  have hlift : (liftM x : Session σ α).run = pure x := by
    funext w
    exact eval_lift x w
  rw [hlift]
  exact .done x

/-- One request that has the property. -/
theorem request {r : Request} (hP : P r) : conn.Executes P Cancelled (conn.execute r).run := by
  rw [← bind_pure (conn.execute r).run]
  exact .execute hP ⟨_, rfl, rfl⟩ fun reply => .done reply

/-- What follows on the headers of the credential may rely on what they are. -/
theorem headers {next : KeyMap String → Session σ β}
    (hnext : ∀ asked, conn.Executes P Cancelled (next (conn.auth.headers asked)).run) :
    conn.Executes P Cancelled (conn.credentialHeaders >>= next).run := by
  have hrest : ∀ asked, conn.Executes P Cancelled
      (ExceptT.bindCont next (.ok (conn.auth.headers asked))) := hnext
  exact .credential hrest

/-- The command of a query carries the credential, and what follows may rely on it. -/
theorem command {q : Query} {params : Parameters} {next : Command → Session σ β}
    (hnext : ∀ (d : Descriptor) (asked : Nat), conn.Executes P Cancelled
      (next { descriptor := { d with headers := conn.auth.headers asked }
              schema := q.schema }).run) :
    conn.Executes P Cancelled (conn.command q params >>= next).run := by
  rw [Connection.command, bind_assoc]
  refine (lift _).bind fun d => ?_
  rw [bind_assoc]
  refine headers fun asked => ?_
  rw [pure_bind]
  exact hnext d asked

/-! ## What follows from what is done for one request -/

/-- What relates the world before to the world after a call for the credential, and a request, and
passes on to sequences, relates the worlds before and after all that is done. -/
theorem leads {T : World σ → World σ → Prop} {a : StateM (World σ) α}
    (h : conn.Executes P Stopped a) (hrefl : ∀ w, T w w)
    (htrans : ∀ {w w' w''}, T w w' → T w' w'' → T w w'')
    (hcredential : ∀ w : World σ, T w { w with asked := w.asked + 1 })
    (hexecute : ∀ request, P request → ∀ w, T w (eval (conn.execute request) w).2)
    (w : World σ) : T w (a.run w).2 := by
  induction h generalizing w with
  | done x => exact hrefl w
  | credential h ih => exact htrans (hcredential w) (ih w.asked { w with asked := w.asked + 1 })
  | execute hP hstop h ih => exact htrans (hexecute _ hP w) (ih _ _)

/-- All that is sent are requests that have the property, with the credential. -/
theorem adds {a : StateM (World σ) α} (h : conn.Executes P Stopped a) (w : World σ) :
    w.Adds (conn.Issues P) (a.run w).2 :=
  h.leads (fun _ => World.adds_of_sent_eq rfl) World.Adds.trans
    (fun _ => World.adds_of_sent_eq rfl)
    (fun request hP w => (conn.adds_execute request w).mono fun _ hr => ⟨request, w, hP, hr⟩) w

/-- Worlds that neither the credential nor a request can tell apart cannot be told apart. -/
theorem respects {R : World σ → World σ → Prop} {a : StateM (World σ) α}
    (h : conn.Executes P Stopped a) (hcredential : Respects R conn.credentialHeaders.run)
    (hexecute : ∀ request, P request → Respects R (conn.execute request).run) : Respects R a := by
  induction h with
  | done x => exact respects_pure x
  | credential h ih =>
    intro w w' hw
    obtain ⟨hsame, hafter⟩ := hcredential w w' hw
    rw [run_bind, run_bind, ← hsame]
    exact ih w.asked _ _ hafter
  | execute hP hstop h ih => exact (hexecute _ hP).andThen ih

end Executes

/-- That something reaches the backend by executing requests passes on to sequences. -/
theorem closed_executes (conn : Connection σ) (P : Request → Prop) :
    Session.Closed fun _ a => conn.Executes P Cancelled a.run where
  lift := Executes.lift
  bind := Executes.bind

end Connection

end RestQuery
