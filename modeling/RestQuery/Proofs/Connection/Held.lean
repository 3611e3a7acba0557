import RestQuery.Proofs.Connection.RetryContract
import RestQuery.Proofs.Connection.Sends

/-!
# The response that a connection holds

A connection holds one response for later inspection. It is cleared when a request starts, and every
trial of the request that has a response, a success or a refusal, puts its own in its place; a trial
without one leaves it alone. `Ran` says what is known of the trials of a request, whichever way it
ends: with the outcome of the last trial, or by a cancellation before the first trial or in a wait.
It holds of a run that ends at once (`ran_cancelled`, `ran_last`, `ran_interrupted`), and of a run
that goes on after a wait if it holds of the rest (`Ran.again`).

Only a refusal is tried again, so the last trial is the only one that may have had no response. What
is held is then the refusal before it, if there was one (`Ran.held_eq`): `execute_holds_last` says
that the held response is that of the last trial exactly if this trial had one or is the only one.
-/

namespace RestQuery

open Session

/-- The response that a trial had: one that tells success, or one that was refused. -/
def Trial.response? (t : Trial) : Option Response :=
  match t.outcome with
  | .ok response => some response
  | .error e => e.refusal?.map (·.response)

namespace Connection

variable {σ : Type}

/-- What is known of the trials of a request between two worlds, and of the result that they come
to. -/
structure Ran (conn : Connection σ) (request : Request) (w : World σ) (trials : List Trial)
    (result : Except Error Response) (w' : World σ) : Prop where
  /-- The backend receives the same request once for each trial. -/
  sent : w'.sent = w.sent ++ trials.map fun t => ⟨t.time, request⟩
  /-- Each trial has the answer that the backend gives when it receives the request that often. -/
  replies : trials.map Trial.reply = conn.replies request trials.length w.backend
  /-- The result is what the last trial came to, unless the connection was cancelled. -/
  ends : result = .error .cancelled ∨ trials.getLast?.map Trial.outcome = some result
  /-- A trial that another one follows had a response. -/
  responded : ∀ t ∈ trials.dropLast, t.response?.isSome
  /-- What is held is the last response that the trials had, else the one that was held before. -/
  held : w'.lastResponse = (trials.filterMap Trial.response?).getLast?.or w.lastResponse

variable {conn : Connection σ} {request : Request} {w w₁ w' : World σ} {retries waited wait : Nat}

/-- A trial replaces what is held by its own response, if it has one. -/
theorem lastResponse_tried (conn : Connection σ) (request : Request) (w : World σ) :
    (conn.tried request w).lastResponse = (conn.trial request w).response?.or w.lastResponse := by
  show heldAfter (conn.trial request w).outcome w.lastResponse = _
  unfold heldAfter Trial.response?
  cases (conn.trial request w).outcome with
  | ok response => rfl
  | error e => rfl

/-- Another trial is due only after a response, since nothing but a refusal may pass. -/
theorem isSome_response?_of_wait {t : Trial} (h : conn.waitAfter? t retries waited = some wait) :
    t.response?.isSome := by
  obtain ⟨e, houtcome, hwait⟩ := waitAfter?_eq_some_iff.mp h
  have hpasses : e.isTransient = true := by
    by_contra hstays
    simp [Retry.Policy.nextWait?, hstays] at hwait
  have hresponse : t.response? = e.refusal?.map (·.response) := by
    rw [Trial.response?, houtcome]
  rw [hresponse]
  cases e with
  | refused refusal => rfl
  | _ => cases hpasses

/-- Where all retries are used up, no further trial is due. -/
theorem waitAfter?_of_used (conn : Connection σ) (t : Trial)
    (h : conn.config.retry.maxRetries ≤ retries) : conn.waitAfter? t retries waited = none := by
  rw [Option.eq_none_iff_forall_ne_some]
  intro wait hsome
  obtain ⟨e, -, hwait⟩ := waitAfter?_eq_some_iff.mp hsome
  simp [Retry.Policy.nextWait?, h] at hwait

/-! ## Runs that end at once -/

/-- A connection that is cancelled makes no trial. -/
theorem ran_cancelled (conn : Connection σ) (request : Request) (w : World σ) :
    conn.Ran request w [] (.error .cancelled) w where
  sent := (List.append_nil w.sent).symm
  replies := rfl
  ends := .inl rfl
  responded := nofun
  held := rfl

/-- A run whose only trial is the last. -/
theorem ran_last (conn : Connection σ) (request : Request) (w : World σ) :
    conn.Ran request w [conn.trial request w] (conn.trial request w).outcome
      (conn.tried request w) where
  sent := rfl
  replies := rfl
  ends := .inr rfl
  responded := nofun
  held := by
    rw [lastResponse_tried]
    cases hresponse : (conn.trial request w).response? <;> simp [hresponse]

/-- A run that is cancelled in the wait after its only trial. -/
theorem ran_interrupted (conn : Connection σ) (request : Request) (w : World σ) (clock : Nat)
    (cancelled : Bool) :
    conn.Ran request w [conn.trial request w] (.error .cancelled)
      { conn.tried request w with clock := clock, cancelled := cancelled } :=
  { conn.ran_last request w with ends := .inl rfl }

/-! ## Runs that go on -/

/-- A trial and a wait are put before a run. -/
theorem Ran.again {trials : List Trial} {result : Except Error Response} {clock : Nat}
    {cancelled : Bool}
    (hwait : conn.waitAfter? (conn.trial request w) retries waited = some wait)
    (h : conn.Ran request { conn.tried request w with clock := clock, cancelled := cancelled }
      trials result w') :
    conn.Ran request w (conn.trial request w :: trials) result w' where
  sent := by
    rw [h.sent]
    simp [tried, trial]
  replies := by
    rw [List.map_cons, List.length_cons, h.replies]
    rfl
  ends := by
    refine h.ends.imp_right fun hlast => ?_
    obtain ⟨t, ht, houtcome⟩ := Option.map_eq_some_iff.mp hlast
    rw [List.getLast?_cons, ht, Option.getD_some, Option.map_some, houtcome]
  responded := by
    intro t ht
    rcases trials with _ | ⟨next, rest⟩
    · cases ht
    · rw [List.dropLast_cons_cons, List.mem_cons] at ht
      rcases ht with rfl | ht
      · exact isSome_response?_of_wait hwait
      · exact h.responded t ht
  held := by
    have hheld := h.held
    rw [show World.lastResponse { conn.tried request w with
      clock := clock, cancelled := cancelled } = _ from conn.lastResponse_tried request w] at hheld
    obtain ⟨response, hresponse⟩ := Option.isSome_iff_exists.mp (isSome_response?_of_wait hwait)
    -- The later trials come last, and the response of this one counts if they had none.
    rw [hheld, hresponse, List.filterMap_cons_some hresponse, List.getLast?_cons]
    cases (trials.filterMap Trial.response?).getLast? <;> rfl

/-- The attempts at a request make some trials, and end as these do. -/
theorem exists_ran (conn : Connection σ) (request : Request) (remaining : Nat) :
    ∀ (retries waited : Nat) (w : World σ), retries + remaining = conn.config.retry.maxRetries →
      ∃ trials, conn.Ran request w trials
        (eval (conn.attempt request retries waited remaining) w).1
        (eval (conn.attempt request retries waited remaining) w).2 := by
  induction remaining with
  | zero =>
    intro retries waited w hcount
    cases hw : w.cancelled with
    | true =>
      rw [eval_attempt_of_cancelled conn request hw]
      exact ⟨[], conn.ran_cancelled request w⟩
    | false =>
      have hused : conn.config.retry.maxRetries ≤ retries := by omega
      rw [eval_attempt_last hw (conn.waitAfter?_of_used _ hused)]
      exact ⟨_, conn.ran_last request w⟩
  | succ remaining ih =>
    intro retries waited w hcount
    cases hw : w.cancelled with
    | true =>
      rw [eval_attempt_of_cancelled conn request hw]
      exact ⟨[], conn.ran_cancelled request w⟩
    | false =>
      cases hwait : conn.waitAfter? (conn.trial request w) retries waited with
      | none =>
        rw [eval_attempt_last hw hwait]
        exact ⟨_, conn.ran_last request w⟩
      | some wait =>
        obtain ⟨e, houtcome, -⟩ := waitAfter?_eq_some_iff.mp hwait
        rw [attempt, eval_bind, eval_attemptOnce hw, houtcome]
        dsimp only
        rw [hwait]
        dsimp only
        rw [eval_bind]
        obtain ⟨clock, cancelled, hafter, hresult⟩ := eval_pause_frame wait (conn.tried request w)
        rcases hpause : eval (pause wait) (conn.tried request w) with ⟨passed, after⟩
        rw [hpause] at hafter hresult
        rcases hresult with rfl | rfl
        · obtain ⟨trials, hran⟩ := ih (retries + 1) (waited + wait) after (by omega)
          subst hafter
          exact ⟨_, hran.again hwait⟩
        · subst hafter
          exact ⟨_, conn.ran_interrupted request w clock cancelled⟩

/-! ## What is held in the end -/

namespace Ran

variable {trials : List Trial} {result : Except Error Response}

/-- What is held is the response of the last trial or, where this one had none, of the trial before
it, which was a refusal. -/
theorem held_eq (h : conn.Ran request w trials result w') (hempty : w.lastResponse = none) :
    w'.lastResponse = (trials.getLast?.bind Trial.response?).or
      (trials.dropLast.getLast?.bind Trial.response?) := by
  have hheld := h.held
  rw [hempty, Option.or_none] at hheld
  rcases List.eq_nil_or_concat trials with rfl | ⟨earlier, last, rfl⟩
  · exact hheld
  · have hresponded := h.responded
    rw [List.concat_eq_append] at hheld hresponded ⊢
    rw [List.dropLast_concat] at hresponded ⊢
    rw [List.getLast?_concat, Option.bind_some, hheld, List.filterMap_append]
    rcases List.eq_nil_or_concat earlier with rfl | ⟨before, refused, rfl⟩
    · cases hlast : last.response? <;> simp [hlast]
    · rw [List.concat_eq_append] at hresponded ⊢
      obtain ⟨response, hresponse⟩ := Option.isSome_iff_exists.mp
        (hresponded refused (by simp))
      cases hlast : last.response? <;> simp [hlast, hresponse]

/-- The held response is that of the last trial exactly if this trial had one or is the only one. -/
theorem held_iff (h : conn.Ran request w trials result w') (hempty : w.lastResponse = none) :
    w'.lastResponse = trials.getLast?.bind Trial.response? ↔
      trials.length ≤ 1 ∨ (trials.getLast?.bind Trial.response?).isSome := by
  rw [h.held_eq hempty]
  cases hlast : trials.getLast?.bind Trial.response? with
  | some response => simp
  | none =>
    have hresponded := h.responded
    rcases List.eq_nil_or_concat trials.dropLast with hnone | ⟨before, refused, hsome⟩
    · -- With nothing before the last trial, nothing is held.
      have hlength := congrArg List.length hnone
      rw [List.length_dropLast, List.length_nil] at hlength
      simp only [hnone, List.getLast?_nil, Option.bind_none, Option.or_none, Option.isSome_none,
        Bool.false_eq_true, or_false, true_iff]
      omega
    · have hlength := congrArg List.length hsome
      rw [List.concat_eq_append] at hsome hlength
      rw [List.length_dropLast, List.length_append, List.length_singleton] at hlength
      rw [hsome] at hresponded ⊢
      obtain ⟨response, hresponse⟩ := Option.isSome_iff_exists.mp
        (hresponded refused (by simp))
      simp only [List.getLast?_concat, Option.bind_some, hresponse, Option.none_or,
        Option.isSome_none, Bool.false_eq_true, or_false, reduceCtorEq, false_iff]
      omega

end Ran

/-- A request makes some trials and ends as they do, under any policy, with any answers, and with a
cancellation at any time. The connection then holds the response of the last trial, or, where this
one had none, that of the refusal before it: hence the response of the last trial, and none if it
had none, exactly if this trial had a response or no other one was made before it. -/
theorem execute_holds_last (conn : Connection σ) (request : Request) (w : World σ) :
    ∃ (trials : List Trial) (result : Except Error Response) (w' : World σ),
      eval (conn.execute request) w = (result, w') ∧
      conn.Ran (conn.authorized request w) { w with lastResponse := none } trials result w' ∧
      w'.lastResponse = (trials.getLast?.bind Trial.response?).or
        (trials.dropLast.getLast?.bind Trial.response?) ∧
      (w'.lastResponse = trials.getLast?.bind Trial.response? ↔
        trials.length ≤ 1 ∨ (trials.getLast?.bind Trial.response?).isSome) := by
  obtain ⟨asked, heval⟩ := eval_execute conn request w
  obtain ⟨trials, hran⟩ := conn.exists_ran (conn.authorized request w) conn.config.retry.maxRetries
    0 0 { w with asked := asked, lastResponse := none } (Nat.zero_add _)
  -- How often the credential was asked for is not among what is said of a run.
  have hrun : conn.Ran (conn.authorized request w) { w with lastResponse := none } trials
      (eval (conn.execute request) w).1 (eval (conn.execute request) w).2 := by
    rw [heval]
    exact { hran with }
  exact ⟨trials, _, _, rfl, hrun, hrun.held_eq rfl, hrun.held_iff rfl⟩

/-- Where a refusal is followed by a trial that has no answer, the refusal stays. -/
theorem execute_holds_last_refusal :
    let conn := scripted .active
    let request : Request := { method := .get, path := "tracks" }
    let w : World (List (Except Error Response)) :=
      { backend := [.ok { status := 503 }, .error (.transport "connection reset")] }
    ∃ (trials : List Trial) (result : Except Error Response) (w' : World _),
      eval (conn.execute request) w = (result, w') ∧ trials.length = 2 ∧
      trials.getLast?.bind Trial.response? = none ∧
      w'.lastResponse.map Response.status = some 503 := by
  intro conn request w
  obtain ⟨trials, result, w', heval, hran, -, -⟩ := execute_holds_last conn request w
  have hsent : (eval (conn.execute request) w).2.sent.length = 2 := by decide +kernel
  have hheld : (eval (conn.execute request) w).2.lastResponse.map Response.status = some 503 := by
    decide +kernel
  rw [heval] at hsent hheld
  have hlength : trials.length = 2 := by
    simpa [hran.sent, w] using hsent
  obtain ⟨first, rest, rfl⟩ := List.exists_cons_of_length_eq_add_one hlength
  obtain ⟨last, rfl⟩ := List.length_eq_one_iff.mp (Nat.succ.inj hlength)
  have hreply : last.reply = .error (.transport "connection reset") :=
    (List.cons.inj (List.cons.inj hran.replies).2).1
  refine ⟨_, _, _, heval, hlength, ?_, hheld⟩
  rw [List.getLast?_cons_cons, List.getLast?_singleton, Option.bind_some, Trial.response?,
    Trial.outcome, hreply]
  rfl

end Connection

end RestQuery
