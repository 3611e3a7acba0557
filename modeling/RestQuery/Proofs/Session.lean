import RestQuery.Connection.Basic

/-!
# The run of a session

`Session.eval` runs what is done over a connection from a world, to an outcome and a world after it.
The lemmas give the run of each way in which sessions are put together, so that no proof about a
connection opens the monad: `eval_bind` for a sequence, `eval_lift` for a computation without
effects, `eval_outcome` for an outcome taken as a value. `Session.Returns` is a property of all that
a session returns, and `Session.Respects` says that a session cannot tell related worlds apart; both
have a rule for sequences.
-/

namespace RestQuery

namespace Session

variable {σ α β : Type}

/-- The outcome of a session that starts in a world, and the world after it. -/
def eval (a : Session σ α) (w : World σ) : Except Error α × World σ := a.run.run w

/-- A sequence goes on with the second part where the first came out without an error. -/
theorem eval_bind (a : Session σ α) (f : α → Session σ β) (w : World σ) :
    eval (a >>= f) w = match eval a w with
      | (.ok x, after) => eval (f x) after
      | (.error e, after) => (.error e, after) := by
  simp only [eval, ExceptT.run, bind, ExceptT.bind, ExceptT.mk, StateT.run, StateT.bind,
    ExceptT.bindCont]
  rcases h : a w with ⟨_ | _, after⟩ <;> rfl

/-- A sequence whose first part came out without an error. -/
theorem eval_bind_ok {a : Session σ α} {w after : World σ} {x : α} (h : eval a w = (.ok x, after))
    (f : α → Session σ β) : eval (a >>= f) w = eval (f x) after := by
  rw [eval_bind, h]

/-- A sequence that comes out without an error goes through its first part without one. -/
theorem exists_of_eval_bind {a : Session σ α} {f : α → Session σ β} {w w' : World σ} {y : β}
    (h : eval (a >>= f) w = (.ok y, w')) :
    ∃ x w₁, eval a w = (.ok x, w₁) ∧ eval (f x) w₁ = (.ok y, w') := by
  rw [eval_bind] at h
  rcases heval : eval a w with ⟨e | x, w₁⟩
  · rw [heval] at h
    cases h
  · rw [heval] at h
    exact ⟨x, w₁, rfl, h⟩

@[simp] theorem eval_pure (x : α) (w : World σ) : eval (pure x : Session σ α) w = (.ok x, w) := rfl

@[simp] theorem eval_throw (e : Error) (w : World σ) :
    eval (throw e : Session σ α) w = (.error e, w) := rfl

@[simp] theorem eval_get (w : World σ) : eval (get : Session σ (World σ)) w = (.ok w, w) := rfl

@[simp] theorem eval_set (w after : World σ) :
    eval (set after : Session σ PUnit) w = (.ok ⟨⟩, after) := rfl

@[simp] theorem eval_modify (f : World σ → World σ) (w : World σ) :
    eval (modify f : Session σ PUnit) w = (.ok ⟨⟩, f w) := rfl

/-- A computation without effects leaves the world as it is. -/
@[simp] theorem eval_lift (x : Except Error α) (w : World σ) :
    eval (liftM x : Session σ α) w = (x, w) := by
  cases x <;> rfl

/-- Something that hands back its outcome does not fail itself. -/
@[simp] theorem eval_lift_run (a : StateM (World σ) α) (w : World σ) :
    eval (ExceptT.lift a : Session σ α) w = (.ok (a.run w).1, (a.run w).2) := rfl

/-- Where the outcome is taken as a value, a failure is none. -/
@[simp] theorem eval_outcome (a : Session σ α) (w : World σ) :
    eval a.outcome w = (.ok (eval a w).1, (eval a w).2) := rfl

/-- The run of a sequence that keeps its outcomes as values. -/
theorem run_bind (a : StateM (World σ) α) (f : α → StateM (World σ) β) (w : World σ) :
    (a >>= f).run w = (f (a.run w).1).run (a.run w).2 := rfl

/-- The run of a session whose outcome is kept as a value. -/
theorem run_run (a : Session σ α) (w : World σ) : StateT.run (ExceptT.run a) w = eval a w := rfl

/-! ## What a session returns -/

/-- Whether all that a session returns has a property, whatever world it starts in. -/
def Returns (P : α → Prop) (a : Session σ α) : Prop :=
  ∀ (w after : World σ) (x : α), eval a w = (.ok x, after) → P x

variable {P : α → Prop} {Q : β → Prop}

theorem returns_pure {x : α} (hx : P x) : (pure x : Session σ α).Returns P := by
  intro w after y h
  cases h
  exact hx

/-- A computation without effects returns its outcome. -/
theorem returns_lift {x : Except Error α} (hx : ∀ y, x = .ok y → P y) :
    (liftM x : Session σ α).Returns P := by
  intro w after y h
  rw [eval_lift] at h
  exact hx y (Prod.mk.inj h).1

/-- A sequence returns what its second part does, after any result of the first. -/
theorem Returns.bind {a : Session σ α} {f : α → Session σ β} (ha : a.Returns P)
    (hf : ∀ x, P x → (f x).Returns Q) : (a >>= f).Returns Q := by
  intro w after y h
  rw [eval_bind] at h
  rcases heval : eval a w with ⟨e | x, mid⟩
  · rw [heval] at h
    cases h
  · rw [heval] at h
    exact hf x (ha w mid x heval) mid after y h

/-- Nothing is known of the result of a session that has no property to show. -/
theorem returns_true (a : Session σ α) : a.Returns fun _ => True := fun _ _ _ _ => trivial

/-! ## What a session does in related worlds -/

variable {R : World σ → World σ → Prop}

/-- Whether something done over a connection comes out alike in related worlds, and leaves them
related. -/
def Respects (R : World σ → World σ → Prop) (a : StateM (World σ) α) : Prop :=
  ∀ w w' : World σ, R w w' → (a.run w).1 = (a.run w').1 ∧ R (a.run w).2 (a.run w').2

theorem respects_pure (x : α) : Respects R (pure x : StateM (World σ) α) :=
  fun _ _ h => ⟨rfl, h⟩

/-- A sequence respects what its parts do. -/
theorem Respects.andThen {a : StateM (World σ) α} {f : α → StateM (World σ) β} (ha : Respects R a)
    (hf : ∀ x, Respects R (f x)) : Respects R (a >>= f) := by
  intro w w' h
  obtain ⟨hsame, hafter⟩ := ha w w' h
  rw [run_bind, run_bind, hsame]
  exact hf _ _ _ hafter

/-- A computation without effects respects every relation. -/
theorem respects_lift (x : Except Error α) : Respects R (liftM x : Session σ α).run := by
  intro w w' h
  rw [run_run, run_run, eval_lift, eval_lift]
  exact ⟨rfl, h⟩

/-- A sequence that stops at a failure respects what its parts do. -/
theorem Respects.bind {a : Session σ α} {f : α → Session σ β} (ha : Respects R a.run)
    (hf : ∀ x, Respects R (f x).run) : Respects R (a >>= f).run := by
  have hrest : ∀ outcome, Respects R (ExceptT.bindCont f outcome) := by
    intro outcome
    cases outcome with
    | ok x => exact hf x
    | error e => exact respects_pure _
  exact ha.andThen hrest

end Session

end RestQuery
