import RestQuery.Proofs.Client.Operations

/-!
# The response that is held has no effect

A connection holds the response to the request executed last. `World.SameButHeld` relates the worlds
that differ in that response only. The execution of a request forgets it before anything else
(`Connection.begun`), so from related worlds it runs as from one; and since an operation reaches the
world in no other way, no sequence of operations, however they depend on one another, can tell the
worlds apart (`Connection.serve_sameButHeld`).
-/

namespace RestQuery

open Session

/-- Whether two worlds are the same but for the response that is held. -/
def World.SameButHeld {σ : Type} (w w' : World σ) : Prop :=
  ∃ held, w' = { w with lastResponse := held }

namespace Connection

variable {σ κ α : Type}

/-- The credential is asked for whatever is held. -/
theorem sameButHeld_credentialHeaders (conn : Connection σ) :
    Respects World.SameButHeld conn.credentialHeaders.run := by
  rintro w _ ⟨held, rfl⟩
  exact ⟨rfl, held, rfl⟩

/-- A request is executed whatever is held, since that is forgotten first. -/
theorem sameButHeld_execute (conn : Connection σ) (request : Request) :
    Respects World.SameButHeld (conn.execute request).run := by
  rintro w _ ⟨held, rfl⟩
  have hbegun : eval (conn.execute request) { w with lastResponse := held } =
      eval (conn.execute request) w := by
    rw [eval_execute_begun, eval_execute_begun]
    rfl
  rw [run_run, run_run, hbegun]
  exact ⟨rfl, _, rfl⟩

/-- An operation comes to the same whatever is held. -/
theorem sameButHeld_carryOut (conn : Connection σ) (op : Operation κ α) :
    Respects World.SameButHeld (conn.carryOut op) :=
  (conn.executes_carryOut op).respects conn.sameButHeld_credentialHeaders
    fun request _ => conn.sameButHeld_execute request

/-- From worlds that are the same but for the response that is held, a client is answered the same,
and the worlds after it are the same but for the response that is held. -/
theorem serve_sameButHeld (conn : Connection σ) (client : Client) (w : World σ)
    (held : Option Response) :
    (conn.serve client { w with lastResponse := held }).1 = (conn.serve client w).1 ∧
      ∃ held', (conn.serve client { w with lastResponse := held }).2 =
        { (conn.serve client w).2 with lastResponse := held' } := by
  induction client generalizing w held with
  | done => exact ⟨rfl, held, rfl⟩
  | ask op next ih =>
    obtain ⟨hsame, held', hafter⟩ := conn.sameButHeld_carryOut op w _ ⟨held, rfl⟩
    rcases hrun : (conn.carryOut op).run w with ⟨result, after⟩
    rw [hrun] at hsame hafter
    have hrun' : (conn.carryOut op).run { w with lastResponse := held } =
        (result, { after with lastResponse := held' }) := Prod.ext hsame.symm hafter
    obtain ⟨hanswers, hrest⟩ := ih result after held'
    rw [conn.serve_ask hrun, conn.serve_ask hrun', hanswers]
    exact ⟨rfl, hrest⟩
  | cancel next ih => exact ih { w with cancelled := true } held
  | cancelAfter wait next ih => exact ih (eval (cancelAfter wait) w).2 held
  | cancelAfterRequests count next ih => exact ih (eval (cancelAfterRequests count) w).2 held

end Connection

end RestQuery
