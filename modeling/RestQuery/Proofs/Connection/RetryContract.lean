import RestQuery.Proofs.Connection.Attempts
import RestQuery.Proofs.Http.RetryAfter

/-!
# What a retried request comes to

`Course.Contract` says what is promised of a request that is sent, and sent again, as a course
tells: how often, when, after what, and why no more. `execute_contract` says that
`Connection.execute` keeps it for every backend and every policy, as long as nothing cancels the
connection.
-/

namespace RestQuery

open Retry Text

/-- The failures that may pass are told by three statuses. -/
theorem Http.Failure.status_mem_of_isTransient {f : Http.Failure} (h : f.isTransient) :
    f.status ∈ [429, 500, 503] := by
  cases f <;> first | decide | cases h

/-- A response that is refused is refused by its own status. -/
theorem Response.status_of_check {r : Response} {refusal : Http.Refusal}
    (h : r.check = .error (.refused refusal)) : refusal.failure.status = r.status := by
  unfold Response.check at h
  split at h
  · cases h
  · rename_i hfailure
    cases h
    exact Http.Failure.status_of_ofStatus? hfailure

namespace Trial

variable {t : Trial} {e : Error}

/-- An error that may pass tells one of three statuses. -/
theorem status?_of_isTransient (houtcome : t.outcome = .error e) (he : e.isTransient) :
    ∃ status ∈ [429, 500, 503], t.status? = some status := by
  obtain ⟨refusal, rfl, hfailure⟩ :
      ∃ refusal, e = .refused refusal ∧ refusal.failure.isTransient := by
    cases e with
    | refused refusal => exact ⟨refusal, rfl, he⟩
    | _ => cases he
  refine ⟨refusal.failure.status, Http.Failure.status_mem_of_isTransient hfailure, ?_⟩
  unfold outcome at houtcome
  unfold status?
  cases hreply : t.reply with
  | error e =>
    rw [hreply] at houtcome
    cases houtcome
    rfl
  | ok response =>
    rw [hreply] at houtcome
    rw [Response.status_of_check houtcome]

/-- The interval after a failed trial is the wait that is wanted with the trial's suggestion. -/
theorem nextInterval_eq (houtcome : t.outcome = .error e) (p : Policy) (epoch : Int)
    (retries : Nat) :
    p.nextInterval (epoch + t.time) e retries = p.wantedWait retries (t.suggestion? epoch) := by
  rw [Policy.nextInterval, Policy.interval_succ, suggestion?, houtcome]

/-- The suggestion of a trial is counted. -/
theorem suggestion?_le {epoch : Int} (hepoch : Http.firstMoment ≤ epoch) {wait : Nat}
    (h : t.suggestion? epoch = some wait) : wait ≤ longestSpan := by
  unfold suggestion? at h
  cases houtcome : t.outcome with
  | ok response => simp only [houtcome, reduceCtorEq] at h
  | error e =>
    simp only [houtcome, Option.bind_eq_some_iff] at h
    obtain ⟨refusal, -, h⟩ := h
    obtain ⟨value, -, hvalue⟩ := Option.bind_eq_some_iff.mp h
    exact Http.suggestedWait?_le (by omega) hvalue

end Trial

/-- What is promised of a course that a request takes between two worlds, under the policy of the
connection. -/
structure Course.Contract {σ : Type} (c : Course) (conn : Connection σ) (request : Request)
    (w w' : World σ) : Prop where
  /-- The backend receives the same request once for each trial. -/
  sent : w'.sent = w.sent ++ c.trials.map fun t => ⟨t.time, request⟩
  /-- Each trial has the answer that the backend gives when it receives the request that often. -/
  replies : c.trials.map Trial.reply = conn.replies request c.trials.length w.backend
  /-- Before each trial, the waits after those before it have passed. -/
  time : ∀ {k : Nat} {t : Trial}, c.trials[k]? = some t →
    t.time = w.clock + ((c.waits.take k).map (min · Connection.longestPause)).sum
  /-- There are no more retries than the policy allows. -/
  retried_le : c.retried.length ≤ conn.config.retry.maxRetries
  /-- There are none if the policy is off. -/
  retried_of_off : conn.config.retry.enabled = false → c.retried = []
  /-- There is a wait only after a status that may pass. -/
  status : ∀ {t : Trial} {wait : Nat}, (t, wait) ∈ c.retried →
    ∃ status ∈ [429, 500, 503], t.status? = some status
  /-- Each wait is the suggested one or the one that has grown with the retries. -/
  wait : ∀ {k : Nat} {t : Trial} {wait : Nat}, c.retried[k]? = some (t, wait) →
    wait = max ((t.suggestion? conn.epoch).getD 0)
      (min maxWord64 (conn.config.retry.baseInterval *
        min maxWord32 (conn.config.retry.multiplier ^ k)))
  /-- If there is a wait, they stay below the budget together. -/
  total : c.retried ≠ [] → c.waits.sum < conn.config.retry.maxTotalWait
  /-- A failure is the last only if the policy is off, it does not pass, all retries are used up, or
  the next wait would bring the waits to the budget. -/
  failed : ∀ {e : Error}, c.last.outcome = .error e →
    conn.config.retry.enabled = false ∨ e.isTransient = false ∨
      c.retried.length = conn.config.retry.maxRetries ∨
      conn.config.retry.maxTotalWait ≤ c.waits.sum +
        conn.config.retry.wantedWait c.retried.length (c.last.suggestion? conn.epoch)
  /-- At each trial the number of retries has 32 bits, the sum of the waits has 64, and the
  suggested wait as well as the wanted one are counted. -/
  counted : ∀ {k : Nat} {t : Trial}, c.trials[k]? = some t →
    k ≤ maxWord32 ∧ (c.waits.take k).sum ≤ maxWord64 ∧
      (∀ wait, t.suggestion? conn.epoch = some wait → wait ≤ longestSpan) ∧
      conn.config.retry.wantedWait k (t.suggestion? conn.epoch) ≤ longestSpan

namespace Connection

open Session

variable {σ : Type} {conn : Connection σ} {request : Request}

namespace Attempts

variable {w w' : World σ} {c : Course}

/-- What the policy has found at a trial that was followed by a wait. -/
theorem retried_spec (hp : conn.config.retry.WordSized) (h : conn.Attempts request 0 0 w c w')
    {k : Nat} {t : Trial} {wait : Nat} (hk : c.retried[k]? = some (t, wait)) :
    conn.config.retry.enabled ∧ (∃ status ∈ [429, 500, 503], t.status? = some status) ∧
      k < conn.config.retry.maxRetries ∧
      wait = conn.config.retry.wantedWait k (t.suggestion? conn.epoch) ∧
      (c.waits.take k).sum + wait < conn.config.retry.maxTotalWait := by
  obtain ⟨e, houtcome, hwait⟩ := waitAfter?_eq_some_iff.mp (h.allowed hk)
  rw [Nat.zero_add, Nat.zero_add] at hwait
  obtain ⟨⟨hon, hpasses, hleft⟩, heq, hbudget⟩ := (Policy.nextWait?_eq_some_iff hp).mp hwait
  rw [Trial.nextInterval_eq houtcome] at heq
  exact ⟨hon, Trial.status?_of_isTransient houtcome hpasses, hleft, heq, hbudget⟩

/-- The waits stay below the budget together. -/
theorem sum_waits_lt (hp : conn.config.retry.WordSized) (h : conn.Attempts request 0 0 w c w')
    (hne : c.retried ≠ []) : c.waits.sum < conn.config.retry.maxTotalWait := by
  -- The sum was checked when the last of the waits was allowed.
  obtain ⟨earlier, ⟨t, wait⟩, heq⟩ := (List.eq_nil_or_concat c.retried).resolve_left hne
  rw [List.concat_eq_append] at heq
  have hlast : c.retried[earlier.length]? = some (t, wait) := by
    rw [heq, List.getElem?_concat_length]
  have hbudget := (h.retried_spec hp hlast).2.2.2.2
  have hwaits : c.waits = earlier.map Prod.snd ++ [wait] := by
    rw [Course.waits, heq, List.map_append]
    rfl
  have htake : c.waits.take earlier.length = earlier.map Prod.snd := by
    rw [hwaits, List.take_left' (List.length_map ..)]
  rw [htake] at hbudget
  simpa [hwaits, List.sum_append] using hbudget

/-- There are no more retries than the policy allows. -/
theorem retried_le (hp : conn.config.retry.WordSized) (h : conn.Attempts request 0 0 w c w') :
    c.retried.length ≤ conn.config.retry.maxRetries := by
  rcases Nat.eq_zero_or_pos c.retried.length with hzero | hpos
  · omega
  · have hlast : c.retried[c.retried.length - 1]? = some (c.retried[c.retried.length - 1]) :=
      List.getElem?_eq_getElem (by omega)
    have hleft := (h.retried_spec hp hlast).2.2.1
    omega

/-- The waits before any trial have 64 bits together. -/
theorem sum_take_le (hp : conn.config.retry.WordSized) (h : conn.Attempts request 0 0 w c w')
    (k : Nat) : (c.waits.take k).sum ≤ maxWord64 := by
  have hsplit : (c.waits.take k).sum + (c.waits.drop k).sum = c.waits.sum := by
    rw [← List.sum_append, List.take_append_drop]
  by_cases hne : c.retried = []
  · have hnil : c.waits = [] := by rw [Course.waits, hne, List.map_nil]
    simp [hnil]
  · have hbudget := h.sum_waits_lt hp hne
    have hword := hp.maxTotalWait
    omega

/-- Every course of attempts keeps the contract. -/
theorem contract (hp : conn.config.retry.WordSized) (hepoch : Http.firstMoment ≤ conn.epoch)
    (h : conn.Attempts request 0 0 w c w') : c.Contract conn request w w' where
  sent := h.sent_eq
  replies := h.replies_eq
  time := h.time_eq
  retried_le := h.retried_le hp
  retried_of_off := by
    intro hoff
    rw [List.eq_nil_iff_forall_not_mem]
    rintro ⟨t, wait⟩ hmem
    obtain ⟨k, hk⟩ := List.getElem?_of_mem hmem
    have hon := (h.retried_spec hp hk).1
    rw [hoff] at hon
    cases hon
  status := by
    intro t wait hmem
    obtain ⟨k, hk⟩ := List.getElem?_of_mem hmem
    exact (h.retried_spec hp hk).2.1
  wait := by
    intro k t wait hk
    exact (h.retried_spec hp hk).2.2.2.1
  total := h.sum_waits_lt hp
  failed := by
    intro e houtcome
    have hnone := h.last_wait
    simp only [waitAfter?, houtcome, Nat.zero_add] at hnone
    -- The policy refuses a further trial for one of four reasons.
    obtain hoff | hstays | hused | hbudget := (Policy.nextWait?_eq_none_iff hp).mp hnone
    · exact .inl hoff
    · exact .inr (.inl hstays)
    · exact .inr (.inr (.inl (Nat.le_antisymm (h.retried_le hp) hused)))
    · rw [Trial.nextInterval_eq houtcome] at hbudget
      exact .inr (.inr (.inr hbudget))
  counted := by
    intro k t hk
    have hlength : k < c.trials.length := (List.getElem?_eq_some_iff.mp hk).1
    have hcount : k ≤ c.retried.length := by
      simp only [Course.trials, List.length_append, List.length_map,
        List.length_singleton] at hlength
      omega
    -- A trial has at most as many retries before it as the policy allows, which has 32 bits.
    have hretries := h.retried_le hp
    have hword := hp.maxRetries
    have hsuggestion : ∀ wait, t.suggestion? conn.epoch = some wait → wait ≤ longestSpan :=
      fun wait => Trial.suggestion?_le hepoch
    exact ⟨by omega, h.sum_take_le hp k, hsuggestion, Policy.wantedWait_le hsuggestion _ k⟩

end Attempts

/-- A request over a connection that is not cancelled takes a course of trials that keeps the
contract, and ends with what the last of them came to. -/
theorem execute_contract (conn : Connection σ) (request : Request) (w : World σ)
    (hp : conn.config.retry.WordSized) (hepoch : Http.firstMoment ≤ conn.epoch)
    (hw : w.Open) (hdue : w.cancelAt = none) :
    ∃ (c : Course) (w' : World σ), eval (conn.execute request) w = (c.last.outcome, w') ∧
      c.Contract conn (conn.authorized request w) w w' := by
  obtain ⟨asked, hauthorize⟩ := eval_authorize conn request w
  obtain ⟨c, w', heval, hcourse⟩ :=
    exists_attempts conn (conn.authorized request w) hp _ (Nat.zero_add _)
      (w := { w with asked := asked, lastResponse := none }) ⟨hw.live, hw.undisturbed⟩ hdue
  refine ⟨c, w', ?_, { hcourse.contract hp hepoch with }⟩
  rw [execute, eval_bind_ok hauthorize, remember, eval_bind_ok (eval_modify _ _)]
  exact heval

/-- A backend that gives some answers one after another, and is silent from then on. -/
def scripted (policy : Policy) : Connection (List (Except Error Response)) where
  catalog := []
  config := { retry := policy }
  auth := .fixed (.bearer "token")
  answer := fun _ replies =>
    match replies with
    | reply :: rest => (reply, rest)
    | [] => (.error (.transport "no answer"), [])
  pageBudget := 1

/-- Where the second answer is the first that is not refused, the contract holds of the two trials
that there are. -/
theorem execute_contract_unavailable :
    let conn := scripted .active
    let request : Request := { method := .get, path := "tracks" }
    let w : World (List (Except Error Response)) :=
      { backend := [.ok (Response.withHeader { status := 503 } "Retry-After" "2"),
          .ok { status := 200 }] }
    (conn.config.retry.WordSized ∧ Http.firstMoment ≤ conn.epoch ∧ w.Open ∧
      w.cancelAt = none) ∧
      (eval (conn.execute request) w).2.sent.length = 2 ∧
      ∃ (c : Course) (w' : World _), eval (conn.execute request) w = (c.last.outcome, w') ∧
        c.Contract conn (conn.authorized request w) w w' := by
  intro conn request w
  have hp : conn.config.retry.WordSized := by constructor <;> decide
  have hepoch : Http.firstMoment ≤ conn.epoch := by decide
  have hw : w.Open := ⟨rfl, rfl⟩
  exact ⟨⟨hp, hepoch, hw, rfl⟩, by decide +kernel,
    execute_contract conn request w hp hepoch hw rfl⟩

end Connection

end RestQuery
