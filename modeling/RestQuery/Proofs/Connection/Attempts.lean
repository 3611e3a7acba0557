import RestQuery.Proofs.Session
import RestQuery.Proofs.Retry

/-!
# The attempts at a request

What `Connection.execute` does over a connection that is not cancelled. A `Course` lists the trials
of a request: those that were followed by a wait, and the last. `Attempts` relates a course to the
worlds before and after it, one step for each trial, and `exists_attempts` says that the loop runs
through such a course, whatever the backend answers.

The facts about a course are proved by induction on that relation. Each wait is one that the policy
allows (`Attempts.allowed`) and after the last trial it allows none (`Attempts.last_wait`), so all
that is to be said of counts, sums and waits follows from the two readings of the policy's decision.
`execute_contract` collects it.
-/

namespace RestQuery

open Retry Text

/-- One time that a request was sent: when, and what came back. -/
structure Trial where
  time : Nat
  reply : Except Error Response

namespace Trial

/-- What a trial comes to: the response, classified by its status. -/
def outcome (t : Trial) : Except Error Response := t.reply.bind Response.check

/-- The status that came back, if any. -/
def status? (t : Trial) : Option Nat :=
  match t.reply with
  | .ok response => some response.status
  | .error e => e.refusal?.map (·.failure.status)

/-- The wait that the response to a failed trial suggests, where the clock stood at zero at a given
moment. -/
def suggestion? (t : Trial) (epoch : Int) : Option Nat :=
  match t.outcome with
  | .ok _ => none
  | .error e => e.refusal?.bind (·.suggestedWait? (epoch + t.time))

end Trial

/-- The trials of a request: those after which another was due, each with the wait, and the last. -/
structure Course where
  retried : List (Trial × Nat)
  last : Trial

namespace Course

/-- All trials in order. -/
def trials (c : Course) : List Trial := c.retried.map Prod.fst ++ [c.last]

/-- All waits in order. -/
def waits (c : Course) : List Nat := c.retried.map Prod.snd

/-- The course with one more trial before its first. -/
def after (t : Trial) (wait : Nat) (c : Course) : Course := ⟨(t, wait) :: c.retried, c.last⟩

end Course

/-- Whether a connection is not cancelled, and will not be while a request is under way. -/
structure World.Open {σ : Type} (w : World σ) : Prop where
  live : w.cancelled = false
  undisturbed : w.cancelDuring = none

/-- The world once a wait has passed. -/
def World.later {σ : Type} (w : World σ) (wait : Nat) : World σ :=
  { w with clock := w.clock + min wait Connection.longestPause }

namespace Connection

open Session

variable {σ : Type} (conn : Connection σ) (request : Request)

/-- The trial that takes place in a world. -/
def trial (w : World σ) : Trial := ⟨w.clock, (conn.answer request w.backend).1⟩

/-- The response that is held after a trial: its own, or that of the refusal that it came to. -/
def heldAfter (outcome : Except Error Response) (held : Option Response) : Option Response :=
  match outcome with
  | .ok response => some response
  | .error e => (e.refusal?.map (·.response)).or held

/-- The world after a trial. -/
def tried (w : World σ) : World σ :=
  { w with
    backend := (conn.answer request w.backend).2
    sent := w.sent ++ [⟨w.clock, request⟩]
    cancelled := w.cancelled || w.cancelDuring == some w.sent.length
    lastResponse := heldAfter (conn.trial request w).outcome w.lastResponse }

/-- The wait after a trial, when so many retries were made and so long was waited, if another trial
is due. -/
def waitAfter? (t : Trial) (retries waited : Nat) : Option Nat :=
  match t.outcome with
  | .ok _ => none
  | .error e => conn.config.retry.nextWait? (conn.epoch + t.time) e retries waited

/-- What the backend answers, from a state on, to a request that is sent so many times in a row. -/
def replies : Nat → σ → List (Except Error Response)
  | 0, _ => []
  | n + 1, backend =>
    let (reply, backend) := conn.answer request backend
    reply :: replies n backend

/-- The request as it is sent from a world on: with the credential, unless it carries one. -/
def authorized (w : World σ) : Request :=
  if (request.header? "authorization").isSome then request
  else request.withHeaders (conn.auth.headers w.asked)

/-- The course of a request from a world, when so many retries were made and so long was waited, to
the world after it. -/
inductive Attempts : Nat → Nat → World σ → Course → World σ → Prop where
  /-- A trial after which no further one is due. -/
  | last {retries waited : Nat} {w : World σ}
      (hnone : conn.waitAfter? (conn.trial request w) retries waited = none) :
      Attempts retries waited w ⟨[], conn.trial request w⟩ (conn.tried request w)
  /-- A trial, a wait, and the trials that follow. -/
  | again {retries waited wait : Nat} {w w' : World σ} {c : Course}
      (hsome : conn.waitAfter? (conn.trial request w) retries waited = some wait)
      (hrest : Attempts (retries + 1) (waited + wait) ((conn.tried request w).later wait) c w') :
      Attempts retries waited w (c.after (conn.trial request w) wait) w'

variable {conn request}

/-- A connection that is open is so after a trial. -/
theorem open_tried (conn : Connection σ) (request : Request) {w : World σ} (hw : w.Open) :
    (conn.tried request w).Open := by
  refine ⟨?_, hw.undisturbed⟩
  show (w.cancelled || w.cancelDuring == some w.sent.length) = false
  rw [hw.live, hw.undisturbed]
  rfl

/-- Attaching the credential changes the headers only. -/
theorem authorized_eq (conn : Connection σ) (request : Request) (w : World σ) :
    ∃ headers, conn.authorized request w = { request with headers := headers } := by
  unfold authorized
  split
  · exact ⟨_, rfl⟩
  · exact ⟨_, rfl⟩

/-! ## The loop -/

/-- The run of attaching the credential, which is asked for at most once. -/
theorem eval_authorize (conn : Connection σ) (request : Request) (w : World σ) :
    ∃ asked, eval (conn.authorize request) w =
      (.ok (conn.authorized request w), { w with asked := asked }) := by
  unfold authorize authorized
  by_cases hheader : (request.header? "authorization").isSome
  · exact ⟨w.asked, by simp only [if_pos hheader, eval_pure]⟩
  · refine ⟨w.asked + 1, ?_⟩
    simp only [if_neg hheader, credentialHeaders, eval_bind, eval_get, eval_set, eval_pure]

/-- The run of an exchange: the trial's outcome, and what the backend and the log have become. -/
theorem eval_exchange (w : World σ) :
    eval (conn.exchange request) w =
      ((conn.trial request w).outcome,
        { w with
          backend := (conn.answer request w.backend).2
          sent := w.sent ++ [⟨w.clock, request⟩]
          cancelled := w.cancelled || w.cancelDuring == some w.sent.length }) := by
  simp only [exchange, eval_bind, eval_get, eval_set, eval_lift]
  rfl

/-- The run of one trial. -/
theorem eval_attemptOnce {w : World σ} (hw : w.cancelled = false) (retries waited : Nat) :
    eval (conn.attemptOnce request retries waited) w =
      match (conn.trial request w).outcome with
      | .ok response => (.ok (.answered response), conn.tried request w)
      | .error e =>
        match conn.waitAfter? (conn.trial request w) retries waited with
        | some wait => (.ok (.again e wait), conn.tried request w)
        | none => (.error e, conn.tried request w) := by
  simp only [attemptOnce, eval_bind, eval_get, hw, Bool.false_eq_true, if_false]
  simp only [eval_outcome, eval_exchange]
  cases houtcome : (conn.trial request w).outcome with
  | ok response =>
    simp only [eval_bind, remember, eval_modify, eval_pure, tried, heldAfter, houtcome]
  | error e =>
    -- The loop reads the clock after the trial, in which no time passes.
    have hwait : conn.waitAfter? (conn.trial request w) retries waited =
        conn.config.retry.nextWait? (conn.epoch + w.clock) e retries waited := by
      simp only [waitAfter?, houtcome]
      rfl
    rw [hwait]
    -- Only a refusal leaves a response to hold.
    cases hrefusal : e.refusal? with
    | none =>
      simp only [eval_bind, eval_get, tried, heldAfter, houtcome, hrefusal, Option.map_none,
        Option.none_or]
      cases conn.config.retry.nextWait? (conn.epoch + w.clock) e retries waited <;> rfl
    | some refusal =>
      simp only [eval_bind, remember, eval_modify, eval_get, tried, heldAfter, houtcome, hrefusal,
        Option.map_some, Option.some_or]
      cases conn.config.retry.nextWait? (conn.epoch + w.clock) e retries waited <;> rfl

/-- A connection that is cancelled does not wait. -/
theorem eval_pause_of_cancelled {w : World σ} (hw : w.cancelled = true) (wait : Nat) :
    eval (pause wait) w = (.error .cancelled, w) := by
  simp only [pause, eval_bind, eval_get, hw, if_true, eval_throw]

/-- The run of a wait that nothing ends early. -/
theorem eval_pause {w : World σ} (hw : w.cancelled = false) (hdue : w.cancelAt = none)
    (wait : Nat) : eval (pause wait) w = (.ok (), w.later wait) := by
  simp only [pause, eval_bind, eval_get, hw, Bool.false_eq_true, if_false, hdue, eval_set,
    World.later]

/-- The run of a wait before a cancellation, which ends it if it comes first. -/
theorem eval_pause_of_due {w : World σ} (hw : w.cancelled = false) {due : Nat}
    (hdue : w.cancelAt = some due) (wait : Nat) :
    eval (pause wait) w =
      if due < w.clock + min wait longestPause then
        (.error .cancelled, { w with clock := max w.clock due, cancelled := true })
      else (.ok (), w.later wait) := by
  simp only [pause, eval_bind, eval_get, hw, Bool.false_eq_true, if_false, hdue]
  split
  · rfl
  · simp only [eval_set, World.later, hdue, hw]

/-- A wait moves the clock, and may find the connection cancelled. -/
theorem eval_pause_frame (wait : Nat) (w : World σ) :
    ∃ clock cancelled, (eval (pause wait) w).2 = { w with clock := clock, cancelled := cancelled } ∧
      ((eval (pause wait) w).1 = .ok () ∨ (eval (pause wait) w).1 = .error .cancelled) := by
  cases hw : w.cancelled with
  | true =>
    rw [eval_pause_of_cancelled hw]
    exact ⟨w.clock, w.cancelled, rfl, .inr rfl⟩
  | false =>
    obtain hdue | ⟨due, hdue⟩ := Option.eq_none_or_eq_some w.cancelAt
    · rw [eval_pause hw hdue]
      exact ⟨_, w.cancelled, rfl, .inl rfl⟩
    · rw [eval_pause_of_due hw hdue]
      split
      · exact ⟨_, true, rfl, .inr rfl⟩
      · exact ⟨_, w.cancelled, rfl, .inl rfl⟩

/-- Where no further trial is due, the loop ends with what the trial came to. -/
theorem eval_attempt_last {w : World σ} (hw : w.cancelled = false) {retries waited : Nat}
    (hnone : conn.waitAfter? (conn.trial request w) retries waited = none) (remaining : Nat) :
    eval (conn.attempt request retries waited remaining) w =
      ((conn.trial request w).outcome, conn.tried request w) := by
  cases houtcome : (conn.trial request w).outcome with
  | ok response =>
    cases remaining <;>
      simp only [attempt, eval_bind, eval_attemptOnce hw, houtcome, eval_pure]
  | error e =>
    cases remaining <;>
      simp only [attempt, eval_bind, eval_attemptOnce hw, houtcome, hnone]

/-- Where a further trial is due, the loop waits and goes on. -/
theorem eval_attempt_wait {w : World σ} (hw : w.cancelled = false) {retries waited wait : Nat}
    (hsome : conn.waitAfter? (conn.trial request w) retries waited = some wait) (remaining : Nat) :
    eval (conn.attempt request retries waited (remaining + 1)) w =
      eval (pause wait >>= fun _ => conn.attempt request (retries + 1) (waited + wait) remaining)
        (conn.tried request w) := by
  cases houtcome : (conn.trial request w).outcome with
  | ok response => simp only [waitAfter?, houtcome, reduceCtorEq] at hsome
  | error e =>
    rw [attempt, eval_bind, eval_attemptOnce hw, houtcome]
    dsimp only
    rw [hsome]

/-- Where nothing ends the wait early, the loop goes on after it. -/
theorem eval_attempt_again {w : World σ} (hw : w.Open) (hdue : w.cancelAt = none)
    {retries waited wait : Nat}
    (hsome : conn.waitAfter? (conn.trial request w) retries waited = some wait) (remaining : Nat) :
    eval (conn.attempt request retries waited (remaining + 1)) w =
      eval (conn.attempt request (retries + 1) (waited + wait) remaining)
        ((conn.tried request w).later wait) := by
  have hpause : eval (pause wait) (conn.tried request w) =
      (.ok (), (conn.tried request w).later wait) :=
    eval_pause (conn.open_tried request hw).live hdue wait
  rw [eval_attempt_wait hw.live hsome, eval_bind_ok hpause]

/-- A request that is answered with success at once is sent once. -/
theorem eval_execute_ok (conn : Connection σ) (request : Request) {w : World σ}
    (hw : w.Open) {response : Response}
    (hanswer : ((conn.answer (conn.authorized request w) w.backend).1.bind Response.check) =
      .ok response) :
    ∃ w', eval (conn.execute request) w = (.ok response, w') ∧ w'.Open ∧
      w'.backend = (conn.answer (conn.authorized request w) w.backend).2 ∧
      w'.sent = w.sent ++ [⟨w.clock, conn.authorized request w⟩] := by
  obtain ⟨asked, hauthorize⟩ := eval_authorize conn request w
  have hnone : conn.waitAfter? (conn.trial (conn.authorized request w)
      { w with asked := asked, lastResponse := none }) 0 0 = none := by
    rw [waitAfter?, Trial.outcome, trial, hanswer]
  have hopen : ({ w with asked := asked, lastResponse := none } : World σ).Open :=
    ⟨hw.live, hw.undisturbed⟩
  refine ⟨conn.tried (conn.authorized request w) { w with asked := asked, lastResponse := none },
    ?_, conn.open_tried _ hopen, rfl, rfl⟩
  rw [execute, eval_bind_ok hauthorize, remember, eval_bind_ok (eval_modify _ _),
    eval_attempt_last (w := { w with asked := asked, lastResponse := none }) hopen.live hnone,
    Trial.outcome, trial, hanswer]

/-- Another trial is due only after an error that the policy passes. -/
theorem waitAfter?_eq_some_iff {t : Trial} {retries waited wait : Nat} :
    conn.waitAfter? t retries waited = some wait ↔
      ∃ e, t.outcome = .error e ∧
        conn.config.retry.nextWait? (conn.epoch + t.time) e retries waited = some wait := by
  unfold waitAfter?
  cases t.outcome with
  | ok response => simp
  | error e => simp

/-- No other trial is due if this one did not fail by an error that passes. -/
theorem waitAfter?_eq_none {t : Trial}
    (h : ∀ e, t.outcome = .error e → e.isTransient = false) (retries waited : Nat) :
    conn.waitAfter? t retries waited = none := by
  rw [Option.eq_none_iff_forall_ne_some]
  intro wait hwait
  obtain ⟨e, he, hnext⟩ := waitAfter?_eq_some_iff.mp hwait
  simp [Retry.Policy.nextWait?, h e he] at hnext

/-- The loop runs through a course of trials and ends with what the last of them came to. -/
theorem exists_attempts (conn : Connection σ) (request : Request)
    (hp : conn.config.retry.WordSized) (remaining : Nat) :
    ∀ {retries waited : Nat} {w : World σ}, retries + remaining = conn.config.retry.maxRetries →
      w.Open → w.cancelAt = none →
      ∃ c w', eval (conn.attempt request retries waited remaining) w = (c.last.outcome, w') ∧
        conn.Attempts request retries waited w c w' := by
  induction remaining with
  | zero =>
    intro retries waited w hcount hw hdue
    -- All retries are used up, so the policy allows no further trial.
    have hnone : conn.waitAfter? (conn.trial request w) retries waited = none := by
      rw [Option.eq_none_iff_forall_ne_some]
      intro wait hsome
      obtain ⟨e, -, hwait⟩ := waitAfter?_eq_some_iff.mp hsome
      have hleft := ((Policy.nextWait?_eq_some_iff hp).mp hwait).1.2.2
      omega
    exact ⟨_, _, eval_attempt_last hw.live hnone _, .last hnone⟩
  | succ remaining ih =>
    intro retries waited w hcount hw hdue
    cases hwait : conn.waitAfter? (conn.trial request w) retries waited with
    | none => exact ⟨_, _, eval_attempt_last hw.live hwait _, .last hwait⟩
    | some wait =>
      -- The wait moves one retry from what remains to what was made.
      have hcount' : retries + 1 + remaining = conn.config.retry.maxRetries := by omega
      have hopen := conn.open_tried request hw
      obtain ⟨c, w', heval, hrest⟩ :=
        @ih _ (waited + wait) ((conn.tried request w).later wait) hcount'
          ⟨hopen.live, hopen.undisturbed⟩ hdue
      refine ⟨c.after _ wait, w', ?_, .again hwait hrest⟩
      rw [eval_attempt_again hw hdue hwait, heval]
      rfl

/-! ## What holds of every course -/

namespace Attempts

variable {retries waited : Nat} {w w' : World σ} {c : Course}

/-- The request is sent once for each trial. -/
theorem sent_eq (h : conn.Attempts request retries waited w c w') :
    w'.sent = w.sent ++ c.trials.map fun t => ⟨t.time, request⟩ := by
  induction h with
  | last => rfl
  | again hsome hrest ih =>
    rw [ih]
    simp [Course.trials, Course.after, World.later, tried, trial]

/-- What comes back is what the backend answers to the same request in a row. -/
theorem replies_eq (h : conn.Attempts request retries waited w c w') :
    c.trials.map Trial.reply = conn.replies request c.trials.length w.backend := by
  induction h with
  | last => rfl
  | again hsome hrest ih =>
    simpa [Course.trials, Course.after, replies, World.later, tried, trial] using ih

/-- Time passes in the waits only. -/
theorem time_eq (h : conn.Attempts request retries waited w c w') :
    ∀ {k : Nat} {t : Trial}, c.trials[k]? = some t →
      t.time = w.clock + ((c.waits.take k).map (min · longestPause)).sum := by
  induction h with
  | last hnone =>
    intro k t hk
    obtain ⟨rfl, rfl⟩ : k = 0 ∧ conn.trial request _ = t := by
      simpa [Course.trials, List.getElem?_singleton] using hk
    rfl
  | again hsome hrest ih =>
    intro k t hk
    cases k with
    | zero =>
      cases hk
      rfl
    | succ k =>
      have htime := ih (k := k) hk
      rw [htime]
      simp only [World.later, tried, Course.waits, Course.after, List.map_cons, List.take_succ_cons,
        List.sum_cons]
      omega

/-- Each wait is one that the policy allows after as many retries and as long a wait as there were
before. -/
theorem allowed (h : conn.Attempts request retries waited w c w') :
    ∀ {k : Nat} {t : Trial} {wait : Nat}, c.retried[k]? = some (t, wait) →
      conn.waitAfter? t (retries + k) (waited + (c.waits.take k).sum) = some wait := by
  induction h with
  | last hnone => simp
  | again hsome hrest ih =>
    intro k t wait hk
    cases k with
    | zero =>
      cases hk
      exact hsome
    | succ k =>
      -- The counts of the rest start with this trial and its wait.
      have hwait := ih (k := k) hk
      rwa [Nat.add_right_comm, Nat.add_assoc _ _ (List.sum _)] at hwait

/-- After the last trial the policy allows no further one. -/
theorem last_wait (h : conn.Attempts request retries waited w c w') :
    conn.waitAfter? c.last (retries + c.retried.length) (waited + c.waits.sum) = none := by
  induction h with
  | last hnone => exact hnone
  | again hsome hrest ih => rwa [Nat.add_right_comm, Nat.add_assoc _ _ (List.sum _)] at ih

end Attempts

end Connection

end RestQuery
