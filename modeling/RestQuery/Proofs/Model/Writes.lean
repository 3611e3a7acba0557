import RestQuery.Model.Persist
import RestQuery.Proofs.Connection.Sends
import RestQuery.Proofs.Model.Key
import RestQuery.Proofs.Query.Window
import RestQuery.Store

/-!
# Where the writes of a record go

A stored record is written under the path of its own. `Model.Addressed` says of a write where its
requests go, by the key that the record has, and `Connection.writes_addressed` that the changes and
the removal of every record are addressed so: below the collection under a key with a character,
nowhere without a key. A key that is there but has no character is no segment, and under it a write
goes to the collection itself; the theorem says exactly which records have such a key.
-/

namespace RestQuery

open Session Connection

/-- Where the requests of a write of a record go. -/
structure Model.Addressed {σ α : Type} (m : Model) (write : Session σ α) : Prop where
  /-- Under a key with a character, to one segment below the collection. -/
  item : ∀ key, m.keySegment? = some key → key ≠ "" →
    Key.segment key ≠ "" ∧
      write.Sends (·.path = Text.trim m.schema.resourcePath ++ "/" ++ Key.segment key)
  /-- Without a key, nowhere: the write fails, and the world stays as it is. -/
  missing : m.keySegment? = none → ∀ w : World σ,
    eval write w = (.error (.missingPrimaryKey m.schema.typeName), w)
  /-- Under a key without a character, to the collection, and unless the connection is cancelled
  something is sent there. -/
  collection : m.keySegment? = some "" →
    write.Sends (·.path = Text.trim m.schema.resourcePath) ∧
      ∀ w : World σ, w.cancelled = false → w.sent.length < (eval write w).2.sent.length

namespace Connection

variable {σ α : Type}

/-- A change goes to the path that its key gives. -/
theorem sends_update (conn : Connection σ) (c : Command) (key : Option String) (body : Json) :
    (conn.update c key body).Sends (·.path = c.writePath key) :=
  (sends_execute conn _).mono fun r ⟨headers, hr⟩ => by rw [hr]

/-- A removal goes to the path that its key gives. -/
theorem sends_remove (conn : Connection σ) (c : Command) (key : Option String) :
    (conn.remove c key).Sends (·.path = c.writePath key) :=
  (sends_execute conn _).mono fun r ⟨headers, hr⟩ => by rw [hr]

/-- The command for a write of a record is for the collection of its type, and nothing is sent for
it. -/
theorem eval_modelCommand (conn : Connection σ) (m : Model) (action : Action) (w : World σ) :
    ∃ c, eval (conn.modelCommand m action) w = (.ok c, { w with asked := w.asked + 1 }) ∧
      c.descriptor.uri = Text.trim m.schema.resourcePath := by
  obtain ⟨d, hd, huri⟩ : ∃ d, ((Query.of m.schema).acting action).describe conn.catalog conn.config
      [] = .ok d ∧ d.uri = Text.trim m.schema.resourcePath := by
    rw [Query.describe, Query.prepare_eq_self _ rfl]
    exact ⟨_, rfl, rfl⟩
  refine ⟨{ descriptor := { d with headers := conn.auth.headers w.asked }, schema := m.schema },
    ?_, huri⟩
  rw [modelCommand, eval_command, hd]
  rfl

/-! ## What a write hands back -/

section

variable (conn : Connection σ) (m : Model)

/-- An insertion hands back the record as it was, or as the answer makes it. -/
theorem run_insert (w : World σ) :
    (m.insert conn).run w =
      match eval (conn.postModel m) w with
      | (.error e, after) => ((m, .error e), after)
      | (.ok response, after) => (((m.absorb response.body).markClean, .ok ()), after) := by
  rw [Model.insert, run_bind, run_run]
  rcases eval (conn.postModel m) w with ⟨_ | response, after⟩ <;> rfl

/-- A change hands back the record as it was, or as it is stored. -/
theorem run_update (w : World σ) :
    (m.update conn).run w =
      if m.dirty.isEmpty then ((m, .ok false), w)
      else match eval (conn.putModel m) w with
        | (.error e, after) => ((m, .error e), after)
        | (.ok _, after) => ((m.markClean, .ok true), after) := by
  unfold Model.update
  split
  · rfl
  · rw [run_bind, run_run]
    rcases eval (conn.putModel m) w with ⟨_ | response, after⟩ <;> rfl

/-- A removal hands back the record as it was, or as a new one. -/
theorem run_delete (w : World σ) :
    (m.delete conn).run w =
      match eval (conn.removeModel m) w with
      | (.error e, after) => ((m, .error e), after)
      | (.ok _, after) => ((m.forget, .ok ()), after) := by
  rw [Model.delete, run_bind, run_run]
  rcases eval (conn.removeModel m) w with ⟨_ | response, after⟩ <;> rfl

/-- Without a change, nothing is done. -/
theorem eval_updateModel_of_clean {m : Model} (hclean : m.dirty = []) (w : World σ) :
    eval (conn.updateModel m) w = (.ok (m, false), w) := by
  rw [updateModel, eval_bind_ok (eval_lift_run _ w), run_update,
    if_pos (List.isEmpty_iff.mpr hclean)]
  rfl

/-- A change of a record that has changed returns the record as it is stored. -/
theorem eval_updateModel {m : Model} (hdirty : m.dirty ≠ []) (w : World σ) :
    eval (conn.updateModel m) w =
      ((eval (conn.putModel m) w).1.map fun _ => (m.markClean, true),
        (eval (conn.putModel m) w).2) := by
  rw [updateModel, eval_bind_ok (eval_lift_run _ w), run_update,
    if_neg (mt List.isEmpty_iff.mp hdirty)]
  rcases eval (conn.putModel m) w with ⟨_ | response, after⟩ <;> rfl

/-- A removal returns the record as a new one. -/
theorem eval_deleteModel (w : World σ) :
    eval (conn.deleteModel m) w =
      ((eval (conn.removeModel m) w).1.map fun _ => m.forget,
        (eval (conn.removeModel m) w).2) := by
  rw [deleteModel, eval_bind_ok (eval_lift_run _ w), run_delete]
  rcases eval (conn.removeModel m) w with ⟨_ | response, after⟩ <;> rfl

end

/-! ## Writes under a key -/

/-- A write of a record by a request with its key. -/
def writeBy (conn : Connection σ) (m : Model) (action : Action)
    (send : Command → String → Session σ Response) : Session σ Response := do
  let key ← (m.addressKey? : Except Error String)
  let c ← conn.modelCommand m action
  send c key

section

variable (conn : Connection σ) {m : Model}

/-- With a key, a write does what its request does. -/
theorem eval_writeBy (send : Command → String → Session σ Response) {key : String}
    (hkey : m.keySegment? = some key) (action : Action) (w : World σ) :
    ∃ c, c.descriptor.uri = Text.trim m.schema.resourcePath ∧
      eval (conn.writeBy m action send) w = eval (send c key) { w with asked := w.asked + 1 } := by
  obtain ⟨c, hc, huri⟩ := eval_modelCommand conn m action w
  have haddress : m.addressKey? = .ok key := by rw [Model.addressKey?, hkey]
  refine ⟨c, huri, ?_⟩
  simp only [writeBy, haddress, eval_bind, eval_lift, hc]

/-- Without a key, a write fails. -/
theorem eval_writeBy_of_missing (send : Command → String → Session σ Response)
    (hkey : m.keySegment? = none) (action : Action) (w : World σ) :
    eval (conn.writeBy m action send) w = (.error (.missingPrimaryKey m.schema.typeName), w) := by
  have haddress : m.addressKey? = .error (.missingPrimaryKey m.schema.typeName) := by
    rw [Model.addressKey?, hkey]
  simp only [writeBy, haddress, eval_bind, eval_lift]

/-- A write whose request goes where the key tells is addressed by the key of the record, whatever
it returns. -/
theorem addressed_of_writeBy {write : Session σ α} (action : Action)
    (send : Command → String → Session σ Response) {result : α}
    (hwrite : ∀ w, eval write w = ((eval (conn.writeBy m action send) w).1.map fun _ => result,
      (eval (conn.writeBy m action send) w).2))
    (hsends : ∀ c key, (send c key).Sends (·.path = c.writePath (some key)))
    (hsent : ∀ c key (w : World σ), w.cancelled = false →
      w.sent.length < (eval (send c key) w).2.sent.length) :
    m.Addressed write := by
  refine ⟨fun key hkey hne => ⟨Key.segment_ne_empty hne, fun w => ?_⟩, fun hnone w => ?_,
    fun hempty => ⟨fun w => ?_, fun w hw => ?_⟩⟩
  · obtain ⟨c, huri, hrun⟩ := eval_writeBy conn send hkey action w
    have hpath : c.writePath (some key) =
        Text.trim m.schema.resourcePath ++ "/" ++ Key.segment key := by
      rw [Command.writePath, if_neg hne, huri, Command.itemPath]
    obtain ⟨more, hmore, hall⟩ := hsends c key { w with asked := w.asked + 1 }
    exact ⟨more, by rw [hwrite, hrun, hmore], fun s hs => (hall s hs).trans hpath⟩
  · rw [hwrite, eval_writeBy_of_missing conn send hnone]
    rfl
  · obtain ⟨c, huri, hrun⟩ := eval_writeBy conn send hempty action w
    have hpath : c.writePath (some "") = Text.trim m.schema.resourcePath := by
      rw [Command.writePath, if_pos rfl, huri]
    obtain ⟨more, hmore, hall⟩ := hsends c "" { w with asked := w.asked + 1 }
    exact ⟨more, by rw [hwrite, hrun, hmore], fun s hs => (hall s hs).trans hpath⟩
  · obtain ⟨c, -, hrun⟩ := eval_writeBy conn send hempty action w
    rw [hwrite, hrun]
    exact hsent c "" { w with asked := w.asked + 1 } hw

/-- The change of a record that has changed is addressed by its key. -/
theorem addressed_updateModel (hdirty : m.dirty ≠ []) : m.Addressed (conn.updateModel m) :=
  conn.addressed_of_writeBy .update (fun c key => conn.update c (some key) (.object m.dirty))
    (conn.eval_updateModel hdirty) (fun c key => sends_update conn c (some key) _)
    fun _ _ _ hw => sent_lt_execute conn _ hw

/-- The removal of a record is addressed by its key. -/
theorem addressed_deleteModel : m.Addressed (conn.deleteModel m) :=
  conn.addressed_of_writeBy .delete (fun c key => conn.remove c (some key))
    (conn.eval_deleteModel m) (fun c key => sends_remove conn c (some key))
    fun _ _ _ hw => sent_lt_execute conn _ hw

end

/-- The changes and the removal of a record are addressed by its key, except that nothing is sent
where nothing has changed. The key has no character exactly if the type has no primary key, or one
of a single field that holds the empty text. -/
theorem writes_addressed (conn : Connection σ) (m : Model) :
    m.Addressed (conn.deleteModel m) ∧
      (m.dirty ≠ [] → m.Addressed (conn.updateModel m)) ∧
      (m.dirty = [] → ∀ w, eval (conn.updateModel m) w = (.ok (m, false), w)) ∧
      (m.keySegment? = some "" ↔ m.schema.primaryKey = [] ∨
        ∃ field, m.schema.primaryKey = [field] ∧
          KeyMap.get? (m.snapshot.getD m.attributes) field = some (.text "")) :=
  ⟨conn.addressed_deleteModel, conn.addressed_updateModel, conn.eval_updateModel_of_clean,
    m.keySegment?_eq_empty_iff⟩

/-- A record whose key is the empty text is removed by a request to its collection. -/
theorem writes_addressed_empty_text :
    let conn : Connection Store :=
      { catalog := [], config := {}, auth := .none, answer := Store.send {}, pageBudget := 1 }
    let note : KeyMap Json := [("body", .text "first"), ("id", .text "")]
    let m : Model :=
      { schema := { typeName := "Note", fields := ["id", "body"] }
        attributes := KeyMap.insert note "body" (.text "edited"), snapshot := some note
        related := [] }
    let w : World Store := { backend := Store.serve {} "notes" [.object note] }
    (m.keySegment? = some "" ∧ m.dirty ≠ []) ∧
      ((eval (conn.deleteModel m) w).2.sent.map (·.request.path) = ["notes"] ∧
        (eval (conn.updateModel m) w).2.sent.map (·.request.path) = ["notes"]) ∧
      m.Addressed (conn.deleteModel m) ∧ m.Addressed (conn.updateModel m) := by
  intro conn note m w
  have hdirty : m.dirty ≠ [] := by decide +kernel
  obtain ⟨hdelete, hupdate, -, hempty⟩ := writes_addressed conn m
  exact ⟨⟨hempty.mpr (.inr ⟨"id", rfl, by decide +kernel⟩), hdirty⟩,
    ⟨by decide +kernel, by decide +kernel⟩, hdelete, hupdate hdirty⟩

end Connection

end RestQuery
