import RestQuery.Connection.Command
import RestQuery.Proofs.Connection.Attempts

/-!
# The requests that a session sends

`World.Adds` says that between two worlds only requests with some property were sent, and
`Session.Sends` that a session sends no others, from whatever world and however it ends. A sequence
sends what its parts send (`Sends.bind`), so what a composed session sends follows from the one
place that sends anything: `Connection.sends_execute` says that a request is sent as it is, but for
its headers, and however often it is tried.
-/

namespace RestQuery

namespace World

variable {σ : Type} {P Q : Request → Prop} {w w' w'' : World σ}

/-- Whether all that was sent from one world to another are requests with a property. -/
def Adds (P : Request → Prop) (w w' : World σ) : Prop :=
  ∃ more, w'.sent = w.sent ++ more ∧ ∀ s ∈ more, P s.request

theorem adds_of_sent_eq (h : w'.sent = w.sent) : Adds P w w' :=
  ⟨[], by rw [h, List.append_nil], nofun⟩

theorem adds_of_sent_concat {s : Sent} (h : w'.sent = w.sent ++ [s]) (hs : P s.request) :
    Adds P w w' :=
  ⟨[s], h, by simpa using hs⟩

theorem Adds.trans (h : Adds P w w') (h' : Adds P w' w'') : Adds P w w'' := by
  obtain ⟨more, hmore, hP⟩ := h
  obtain ⟨more', hmore', hP'⟩ := h'
  refine ⟨more ++ more', by rw [hmore', hmore, List.append_assoc], fun s hs => ?_⟩
  rcases List.mem_append.mp hs with hs | hs
  · exact hP s hs
  · exact hP' s hs

theorem Adds.mono (h : Adds P w w') (hPQ : ∀ r, P r → Q r) : Adds Q w w' := by
  obtain ⟨more, hmore, hP⟩ := h
  exact ⟨more, hmore, fun s hs => hPQ _ (hP s hs)⟩

end World

namespace Session

variable {σ α β : Type} {P Q : Request → Prop}

/-- Whether all requests that a session sends have a property. -/
def Sends (P : Request → Prop) (a : Session σ α) : Prop :=
  ∀ w : World σ, w.Adds P (eval a w).2

/-- A session that leaves the log of requests alone sends nothing. -/
theorem sends_of_sent_eq {a : Session σ α} (h : ∀ w, (eval a w).2.sent = w.sent) : a.Sends P :=
  fun w => World.adds_of_sent_eq (h w)

theorem Sends.mono {a : Session σ α} (h : a.Sends P) (hPQ : ∀ r, P r → Q r) : a.Sends Q :=
  fun w => (h w).mono hPQ

/-- A sequence sends what its parts send. -/
theorem Sends.bind {a : Session σ α} {f : α → Session σ β} (ha : a.Sends P)
    (hf : ∀ x, (f x).Sends P) : (a >>= f).Sends P := by
  intro w
  have hfirst := ha w
  rw [eval_bind]
  rcases heval : eval a w with ⟨e | x, after⟩
  · rw [heval] at hfirst
    exact hfirst
  · rw [heval] at hfirst
    exact hfirst.trans (hf x after)

theorem sends_pure (x : α) : (pure x : Session σ α).Sends P :=
  sends_of_sent_eq fun _ => rfl

/-- What was sent in the first part of a sequence stays sent. -/
theorem sent_length_le_bind {a : Session σ α} {f : α → Session σ β} (hf : ∀ x, (f x).Sends P)
    (w : World σ) : (eval a w).2.sent.length ≤ (eval (a >>= f) w).2.sent.length := by
  rw [eval_bind]
  rcases eval a w with ⟨e | x, after⟩
  · exact Nat.le_refl _
  · obtain ⟨more, hmore, -⟩ := hf x after
    rw [hmore, List.length_append]
    exact Nat.le_add_right _ _

end Session

namespace Connection

open Session

variable {σ : Type} {conn : Connection σ} {request : Request} {w : World σ}

/-- The command of a query that compiles carries the credential, and nothing is sent for it. -/
theorem eval_command (conn : Connection σ) (q : Query) (params : Parameters) (w : World σ) :
    eval (conn.command q params) w =
      match q.describe conn.catalog conn.config params with
      | .error e => (.error e, w)
      | .ok d =>
        (.ok { descriptor := { d with headers := conn.auth.headers w.asked }, schema := q.schema },
          { w with asked := w.asked + 1 }) := by
  simp only [command, eval_bind, eval_lift]
  cases q.describe conn.catalog conn.config params with
  | error e => rfl
  | ok d =>
    simp only [credentialHeaders, eval_bind, eval_get, eval_set, eval_pure]

/-- A connection that is cancelled sends nothing. -/
theorem eval_attemptOnce_of_cancelled (conn : Connection σ) (request : Request)
    (hw : w.cancelled = true) (retries waited : Nat) :
    eval (conn.attemptOnce request retries waited) w = (.error .cancelled, w) := by
  simp only [attemptOnce, eval_bind, eval_get, hw, if_true, eval_throw]

theorem eval_attempt_of_cancelled (conn : Connection σ) (request : Request)
    (hw : w.cancelled = true) (retries waited remaining : Nat) :
    eval (conn.attempt request retries waited remaining) w = (.error .cancelled, w) := by
  cases remaining <;> rw [attempt, eval_bind, eval_attemptOnce_of_cancelled conn request hw]

/-- One trial sends the request once. -/
theorem sent_attemptOnce (conn : Connection σ) (request : Request) (hw : w.cancelled = false)
    (retries waited : Nat) :
    (eval (conn.attemptOnce request retries waited) w).2.sent =
      w.sent ++ [⟨w.clock, request⟩] := by
  rw [eval_attemptOnce hw]
  cases (conn.trial request w).outcome with
  | ok response => rfl
  | error e => cases conn.waitAfter? (conn.trial request w) retries waited <;> rfl

theorem sends_attemptOnce (conn : Connection σ) (request : Request) (retries waited : Nat) :
    (conn.attemptOnce request retries waited).Sends (· = request) := by
  intro w
  cases hw : w.cancelled with
  | true =>
    rw [eval_attemptOnce_of_cancelled conn request hw]
    exact World.adds_of_sent_eq rfl
  | false => exact World.adds_of_sent_concat (sent_attemptOnce conn request hw _ _) rfl

/-- A wait sends nothing. -/
theorem sends_pause {P : Request → Prop} (wait : Nat) :
    (pause wait : Session σ Unit).Sends P := by
  refine sends_of_sent_eq fun w => ?_
  obtain ⟨clock, cancelled, hafter, -⟩ := eval_pause_frame wait w
  rw [hafter]

/-- The attempts at a request are a first one and others, which send nothing but the request. -/
theorem attempt_eq_bind (conn : Connection σ) (request : Request) (remaining : Nat) :
    ∀ retries waited, ∃ others : Attempt → Session σ Response,
      conn.attempt request retries waited remaining =
        conn.attemptOnce request retries waited >>= others ∧
      ∀ outcome, (others outcome).Sends (· = request) := by
  induction remaining with
  | zero =>
    intro retries waited
    refine ⟨_, rfl, fun outcome => ?_⟩
    cases outcome <;> exact sends_of_sent_eq fun _ => rfl
  | succ remaining ih =>
    intro retries waited
    refine ⟨_, rfl, fun outcome => ?_⟩
    cases outcome with
    | answered response => exact sends_pure response
    | again e wait =>
      obtain ⟨others, heq, hothers⟩ := ih (retries + 1) (waited + wait)
      refine (sends_pause wait).bind fun _ => ?_
      rw [heq]
      exact (sends_attemptOnce conn request _ _).bind hothers

/-- The world in which the attempts at a request start: the credential was asked for, unless the
request carries one, and no response is held. -/
def begun (request : Request) (w : World σ) : World σ :=
  { w with
    asked := if (request.header? "authorization").isSome then w.asked else w.asked + 1
    lastResponse := none }

/-- The run of a request is that of the attempts at it, with the credential. -/
theorem eval_execute_begun (conn : Connection σ) (request : Request) (w : World σ) :
    eval (conn.execute request) w =
      eval (conn.attempt (conn.authorized request w) 0 0 conn.config.retry.maxRetries)
        (begun request w) := by
  unfold execute authorize authorized begun
  by_cases hheader : (request.header? "authorization").isSome
  · simp only [if_pos hheader, pure_bind, remember, eval_bind, eval_modify]
  · simp only [if_neg hheader, credentialHeaders, remember, eval_bind, eval_get, eval_set,
      eval_modify, eval_pure]

theorem eval_execute (conn : Connection σ) (request : Request) (w : World σ) :
    ∃ asked, eval (conn.execute request) w =
      eval (conn.attempt (conn.authorized request w) 0 0 conn.config.retry.maxRetries)
        { w with asked := asked, lastResponse := none } :=
  ⟨_, conn.eval_execute_begun request w⟩

/-- Over a connection that is cancelled, a request comes to nothing. -/
theorem eval_execute_of_cancelled (conn : Connection σ) (request : Request)
    (hw : w.cancelled = true) : ∃ asked, eval (conn.execute request) w =
      (.error .cancelled, { w with asked := asked, lastResponse := none }) := by
  obtain ⟨asked, heval⟩ := eval_execute conn request w
  have hstop := eval_attempt_of_cancelled conn (conn.authorized request w)
    (w := { w with asked := asked, lastResponse := none }) hw 0 0 conn.config.retry.maxRetries
  exact ⟨asked, heval.trans hstop⟩

/-- A request is sent with the credential, and nothing else is. -/
theorem adds_execute (conn : Connection σ) (request : Request) (w : World σ) :
    w.Adds (· = conn.authorized request w) (eval (conn.execute request) w).2 := by
  obtain ⟨others, heq, hothers⟩ :=
    attempt_eq_bind conn (conn.authorized request w) conn.config.retry.maxRetries 0 0
  rw [eval_execute_begun, heq]
  exact (sends_attemptOnce conn _ 0 0).bind hothers (begun request w)

/-- A request is sent as it is but for its headers, and nothing else is. -/
theorem sends_execute (conn : Connection σ) (request : Request) :
    (conn.execute request).Sends fun r => ∃ headers, r = { request with headers := headers } := by
  intro w
  obtain ⟨headers, hheaders⟩ := conn.authorized_eq request w
  exact (conn.adds_execute request w).mono fun r hr => ⟨headers, hr.trans hheaders⟩

/-- Over a connection that is not cancelled, at least one attempt at a request is sent. -/
theorem sent_lt_attempt (conn : Connection σ) (request : Request) (hw : w.cancelled = false)
    (retries waited remaining : Nat) :
    w.sent.length < (eval (conn.attempt request retries waited remaining) w).2.sent.length := by
  obtain ⟨others, heq, hothers⟩ := attempt_eq_bind conn request remaining retries waited
  have honce := sent_attemptOnce conn request hw retries waited
  have hle := sent_length_le_bind (a := conn.attemptOnce request retries waited) hothers w
  rw [honce, List.length_append] at hle
  rw [heq]
  exact Nat.lt_of_lt_of_le (Nat.lt_succ_self _) hle

/-- A request over a connection that is not cancelled is sent at least once. -/
theorem sent_lt_execute (conn : Connection σ) (request : Request) (hw : w.cancelled = false) :
    w.sent.length < (eval (conn.execute request) w).2.sent.length := by
  obtain ⟨asked, heval⟩ := eval_execute conn request w
  rw [heval]
  exact sent_lt_attempt conn _ (w := { w with asked := asked, lastResponse := none }) hw 0 0 _

end Connection

end RestQuery
