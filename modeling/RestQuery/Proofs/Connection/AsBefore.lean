import RestQuery.Proofs.Connection.Sends

/-!
# A server that answers as before

What is done over a connection may be done once more. It comes out as it did before if the server
answers as before, and the connection is found as it was: with a credential that is the same from
then on, and as far from a cancellation. `World.AsBefore` says so of two worlds. Time may have
passed, and requests may have been sent, as long as no failure asks for another wait than before.

`World.Mirrors` relates two worlds that were so at some moments and in which the same requests have
been sent since. A request cannot tell such worlds apart (`Connection.respects_execute`): it is
tried as often, ends alike and leaves the worlds related.
-/

namespace RestQuery

open Session

variable {σ : Type}

/-- What the backend of a connection answers, from a state on, to some requests one after another.
-/
def Connection.answers (conn : Connection σ) : List Request → σ → List (Except Error Response)
  | [], _ => []
  | request :: rest, backend =>
    (conn.answer request backend).1 :: answers conn rest (conn.answer request backend).2

namespace World

/-- How far a count is from one at which something will happen, if it will; below zero once that is
past. -/
def left (due : Option Nat) (count : Nat) : Option Int :=
  due.map fun due : Nat => due - (count : Int)

/-- The time until the connection will be cancelled, if it will at a time. -/
def timeLeft (w : World σ) : Option Int := left w.cancelAt w.clock

/-- The number of requests before the one during which the connection will be cancelled, if it will
during one. -/
def requestsLeft (w : World σ) : Option Int := left w.cancelDuring w.sent.length

/-- Whether what is done over a connection in a later world meets what it met in an earlier one. -/
structure AsBefore (conn : Connection σ) (w w' : World σ) : Prop where
  /-- The backend answers as before. -/
  answers : ∀ requests, conn.answers requests w'.backend = conn.answers requests w.backend
  /-- A failed answer is followed by the wait by which it was followed before. A refusal may name the
  moment to wait for, and the wait until then is a shorter one at a later time. -/
  waits : ∀ requests, ∀ reply ∈ conn.answers requests w.backend,
    ∀ e, reply.bind Response.check = .error e → ∀ passed retries waited : Nat,
      conn.config.retry.nextWait? (conn.epoch + w'.clock + passed) e retries waited =
        conn.config.retry.nextWait? (conn.epoch + w.clock + passed) e retries waited
  /-- The credential is the one of before. -/
  headers : ∀ n, conn.auth.headers (w'.asked + n) = conn.auth.headers (w.asked + n)
  cancelled : w'.cancelled = w.cancelled
  /-- A cancellation is due as soon as before, if one is due. -/
  timeLeft : w'.timeLeft = w.timeLeft
  requestsLeft : w'.requestsLeft = w.requestsLeft

/-- Whether two worlds meet what is done alike, and the same requests were sent in them since their
logs were as given. -/
structure Mirrors (conn : Connection σ) (log log' : List Sent) (w w' : World σ) : Prop
    extends w.AsBefore conn w' where
  sent : ∃ more more', w.sent = log ++ more ∧ w'.sent = log' ++ more' ∧
    more'.map Sent.request = more.map Sent.request

variable {conn : Connection σ} {w w' : World σ} {log log' : List Sent}

/-- Where nothing was sent yet, only the worlds have to be alike. -/
theorem AsBefore.mirrors (h : w.AsBefore conn w') : w.Mirrors conn w.sent w'.sent w' :=
  { h with sent := ⟨[], [], (List.append_nil _).symm, (List.append_nil _).symm, rfl⟩ }

/-- One answer is the one of before. -/
theorem AsBefore.answer_eq (h : w.AsBefore conn w') (request : Request) :
    (conn.answer request w'.backend).1 = (conn.answer request w.backend).1 :=
  (List.cons.inj (h.answers [request])).1

/-- A wait after an answer is the one of before. -/
theorem AsBefore.waitAfter?_eq (h : w.AsBefore conn w') (request : Request) (retries waited : Nat) :
    conn.waitAfter? (conn.trial request w') retries waited =
      conn.waitAfter? (conn.trial request w) retries waited := by
  have houtcome : (conn.trial request w').outcome = (conn.trial request w).outcome :=
    congrArg (·.bind Response.check) (h.answer_eq request)
  rw [Connection.waitAfter?, Connection.waitAfter?, houtcome]
  cases herror : (conn.trial request w).outcome with
  | ok response => rfl
  | error e =>
    have hwait := h.waits [request] _ List.mem_cons_self e herror 0 retries waited
    rw [Int.natCast_zero, Int.add_zero, Int.add_zero] at hwait
    exact hwait

/-- If something will happen at one of two counts, it will at the other, and as soon. -/
theorem left_cases {due due' : Option Nat} {count count' : Nat}
    (h : left due' count' = left due count) :
    (due = none ∧ due' = none) ∨
      ∃ at' at'', due = some at' ∧ due' = some at'' ∧ (at'' : Int) - count' = at' - count := by
  cases due with
  | none => exact .inl ⟨rfl, Option.map_eq_none_iff.mp h⟩
  | some at' =>
    obtain ⟨at'', hdue, hleft⟩ := Option.map_eq_some_iff.mp h
    exact .inr ⟨at', at'', rfl, hdue, hleft⟩

/-- Counts that go on alike are as far from what will happen as before. -/
theorem left_add {due due' : Option Nat} {count count' : Nat}
    (h : left due' count' = left due count) (n : Nat) :
    left due' (count' + n) = left due (count + n) := by
  obtain ⟨rfl, rfl⟩ | ⟨at', at'', rfl, rfl, hleft⟩ := left_cases h
  · rfl
  · simp only [left, Option.map_some, Option.some.injEq]
    omega

/-- If a cancellation comes during the next request in one of the worlds, it does in the other. -/
theorem AsBefore.during_eq (h : w.AsBefore conn w') :
    (w'.cancelDuring == some w'.sent.length) = (w.cancelDuring == some w.sent.length) := by
  obtain ⟨hw, hw'⟩ | ⟨due, due', hw, hw', hleft⟩ := left_cases h.requestsLeft
  · rw [hw, hw']
    rfl
  · rw [hw, hw', Bool.eq_iff_iff]
    simp only [beq_iff_eq, Option.some.injEq]
    omega

/-- After a trial the worlds are alike again. -/
theorem Mirrors.tried (h : w.Mirrors conn log log' w') (request : Request) :
    (conn.tried request w).Mirrors conn log log' (conn.tried request w') where
  answers requests := (List.cons.inj (h.answers (request :: requests))).2
  waits requests reply hreply := h.waits (request :: requests) reply (List.mem_cons_of_mem _ hreply)
  headers := h.headers
  cancelled := congrArg₂ or h.cancelled h.during_eq
  timeLeft := h.timeLeft
  requestsLeft := by
    have hlength : ∀ w : World σ, (conn.tried request w).sent.length = w.sent.length + 1 :=
      fun w => List.length_append
    rw [requestsLeft, requestsLeft, hlength, hlength]
    exact left_add h.requestsLeft 1
  sent := by
    obtain ⟨more, more', hlog, hlog', hmore⟩ := h.sent
    refine ⟨more ++ [⟨w.clock, request⟩], more' ++ [⟨w'.clock, request⟩], ?_, ?_, ?_⟩
    · rw [← List.append_assoc, ← hlog]
      rfl
    · rw [← List.append_assoc, ← hlog']
      rfl
    · rw [List.map_append, List.map_append, hmore]
      rfl

/-- Once the same time has passed in both, the worlds are alike again. -/
theorem Mirrors.passed (h : w.Mirrors conn log log' w') (time : Nat) :
    ({ w with clock := w.clock + time } : World σ).Mirrors conn log log'
      { w' with clock := w'.clock + time } where
  answers := h.answers
  waits requests reply hreply e he passed retries waited := by
    have hwait := h.waits requests reply hreply e he (time + passed) retries waited
    push_cast at hwait ⊢
    simpa only [Int.add_assoc] using hwait
  headers := h.headers
  cancelled := h.cancelled
  timeLeft := left_add h.timeLeft time
  requestsLeft := h.requestsLeft
  sent := h.sent

end World

namespace Connection

variable {conn : Connection σ} {log log' : List Sent}

/-- The credential is the one of before, also from a call for it on. -/
theorem respects_credentialHeaders :
    Respects (World.Mirrors conn log log') conn.credentialHeaders.run := by
  intro w w' h
  refine ⟨congrArg Except.ok (h.headers 0).symm, { h with headers := fun n => ?_ }⟩
  have hnext := h.headers (1 + n)
  rw [← Nat.add_assoc, ← Nat.add_assoc] at hnext
  exact hnext

theorem respects_authorize (request : Request) :
    Respects (World.Mirrors conn log log') (conn.authorize request).run := by
  unfold authorize
  split
  · exact respects_pure _
  · exact respects_credentialHeaders.bind fun _ => respects_pure _

/-- What is held of the responses has no effect on what follows. -/
theorem respects_remember (held : Option Response) :
    Respects (World.Mirrors conn log log') (remember held).run :=
  fun _ _ h => ⟨rfl, { h with }⟩

/-- A trial comes to the same, and the same is done about a failure. -/
theorem respects_attemptOnce (request : Request) (retries waited : Nat) :
    Respects (World.Mirrors conn log log') (conn.attemptOnce request retries waited).run := by
  intro w w' h
  rw [run_run, run_run]
  cases hw : w.cancelled with
  | true =>
    rw [eval_attemptOnce_of_cancelled conn request hw,
      eval_attemptOnce_of_cancelled conn request (h.cancelled.trans hw)]
    exact ⟨rfl, h⟩
  | false =>
    have hreply : (conn.trial request w').outcome = (conn.trial request w).outcome :=
      congrArg (·.bind Response.check) (h.answer_eq request)
    rw [eval_attemptOnce hw, eval_attemptOnce (h.cancelled.trans hw), hreply,
      h.waitAfter?_eq request]
    cases (conn.trial request w).outcome with
    | ok response => exact ⟨rfl, h.tried request⟩
    | error e =>
      cases conn.waitAfter? (conn.trial request w) retries waited with
      | none => exact ⟨rfl, h.tried request⟩
      | some wait => exact ⟨rfl, h.tried request⟩

/-- A wait is cut short by a cancellation, or it is not, as the time that is left tells. -/
theorem respects_pause (wait : Nat) :
    Respects (World.Mirrors conn log log') (pause wait : Session σ Unit).run := by
  intro w w' h
  rw [run_run, run_run]
  cases hlive : w.cancelled with
  | true =>
    rw [eval_pause_of_cancelled hlive, eval_pause_of_cancelled (h.cancelled.trans hlive)]
    exact ⟨rfl, h⟩
  | false =>
    have hlive' := h.cancelled.trans hlive
    obtain ⟨hw, hw'⟩ | ⟨due, due', hw, hw', hleft⟩ := World.left_cases h.timeLeft
    · rw [eval_pause hlive hw, eval_pause hlive' hw']
      exact ⟨rfl, h.passed _⟩
    · have hends : due' < w'.clock + min wait longestPause ↔
          due < w.clock + min wait longestPause := by omega
      rw [eval_pause_of_due hlive hw, eval_pause_of_due hlive' hw', if_congr hends rfl rfl]
      split
      · -- The same time passes up to the cancellation.
        have hclock : max w.clock due = w.clock + (due - w.clock) := by omega
        have hclock' : max w'.clock due' = w'.clock + (due - w.clock) := by omega
        rw [hclock, hclock']
        exact ⟨rfl, { h.passed (due - w.clock) with cancelled := rfl }⟩
      · exact ⟨rfl, h.passed _⟩

/-- As many attempts are made at a request, and they come to the same. -/
theorem respects_attempt (request : Request) (remaining : Nat) :
    ∀ retries waited, Respects (World.Mirrors conn log log')
      (conn.attempt request retries waited remaining).run := by
  -- Each attempt starts with more retries made and more time waited, so the induction is for any.
  induction remaining with
  | zero =>
    intro retries waited
    refine (respects_attemptOnce request retries waited).bind fun attempt => ?_
    cases attempt <;> exact respects_pure _
  | succ remaining ih =>
    intro retries waited
    refine (respects_attemptOnce request retries waited).bind fun attempt => ?_
    cases attempt with
    | answered response => exact respects_pure _
    | again e wait => exact (respects_pause wait).bind fun _ => ih _ _

/-- A request is tried as often, and ends alike. -/
theorem respects_execute (request : Request) :
    Respects (World.Mirrors conn log log') (conn.execute request).run :=
  (respects_authorize request).bind fun _ =>
    (respects_remember none).bind fun _ => respects_attempt _ _ 0 0

end Connection

end RestQuery
