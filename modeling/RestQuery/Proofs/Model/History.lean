import RestQuery.Proofs.Model.Paths
import RestQuery.Proofs.Model.Rows

/-!
# The history of a record

A record in hand is changed, stored and removed in any order, and each of these steps may fail.
`Connection.history` is the record, and the world, after some of them. What a step can do to the
record is told by the record alone: which attributes differ from those that the server holds
(`Model.Differs`), and under which key it holds them. `Connection.Consistent` says for each step
what it sends and what it leaves, whatever the server answers. Every step keeps the keys of the
attributes in order, which is all that this rests on, so it holds at every point of a history
(`Connection.history_consistent`).
-/

namespace RestQuery

open Session Text

namespace Model

/-! ## What differs -/

/-- The value that the server is known to hold for an attribute. -/
def heldValue? (m : Model) (name : String) : Option Json :=
  m.snapshot.bind fun old => KeyMap.get? old name

/-- Whether an attribute has a value, and not the one that the server is known to hold. -/
def Differs (m : Model) (name : String) (value : Json) : Prop :=
  KeyMap.get? m.attributes name = some value ∧
    ∀ held, m.heldValue? name = some held → held.same value = false

variable {m : Model}

/-- The attributes to be sent are those that differ. -/
theorem get?_dirty (hm : KeyMap.Ordered m.attributes) (name : String) (value : Json) :
    KeyMap.get? m.dirty name = some value ↔ m.Differs name value := by
  unfold dirty Differs heldValue?
  cases m.snapshot with
  | none => simp
  | some old =>
    dsimp only [Option.bind_some]
    rw [KeyMap.get?_filter hm]
    refine and_congr_right fun _ => ?_
    cases KeyMap.get? old name with
    | none => simp
    | some held => simp

theorem ordered_dirty (hm : KeyMap.Ordered m.attributes) : KeyMap.Ordered m.dirty := by
  unfold dirty
  cases m.snapshot with
  | none => exact hm
  | some old => exact hm.sublist (List.filter_sublist.map _)

/-- Something is to be sent exactly if an attribute differs. -/
theorem dirty_ne_nil_iff (hm : KeyMap.Ordered m.attributes) :
    m.dirty ≠ [] ↔ ∃ name value, m.Differs name value := by
  constructor
  · intro hdirty
    obtain ⟨⟨name, value⟩, rest, heq⟩ := List.exists_cons_of_ne_nil hdirty
    refine ⟨name, value, (get?_dirty hm name value).mp ?_⟩
    rw [heq, KeyMap.get?_cons, if_pos rfl]
  · rintro ⟨name, value, hdiffers⟩ hnone
    rw [← get?_dirty hm, hnone] at hdiffers
    cases hdiffers

/-- The server holds all attributes of a record that was stored. -/
theorem dirty_markClean (hm : KeyMap.Ordered m.attributes) : m.markClean.dirty = [] := by
  by_contra hdirty
  obtain ⟨name, value, hvalue, hdiffers⟩ := (dirty_ne_nil_iff (m := m.markClean) hm).mp hdirty
  have hsame := hdiffers value hvalue
  rw [value.same_refl] at hsame
  cases hsame

/-- The attributes of an answer are put over those of the record, if they are declared. -/
theorem get?_absorb (m : Model) {members : List (String × Json)} (h : (KeyMap.keys members).Nodup)
    (name : String) :
    KeyMap.get? (m.absorb (.object members)).attributes name =
      if m.schema.hasField name then
        (KeyMap.get? members name).or (KeyMap.get? m.attributes name)
      else KeyMap.get? m.attributes name := by
  have hdeclared : (KeyMap.keys (members.filter fun entry => m.schema.hasField entry.1)).Nodup :=
    h.sublist (List.filter_sublist.map _)
  rw [absorb, KeyMap.get?_overlay hdeclared, KeyMap.get?_filter_key]
  split <;> rfl

/-! ## Attributes in order -/

theorem ordered_absorb (hm : KeyMap.Ordered m.attributes) (body : Json) :
    KeyMap.Ordered (m.absorb body).attributes := by
  cases body with
  | object members => exact hm.overlay _
  | _ => exact hm

/-- The records that are read of rows have their attributes in order. -/
theorem ordered_ofRow? {g : Catalog} {strict : Bool} {s : Schema} {row : Json}
    (h : ofRow? g strict s row = .ok m) : KeyMap.Ordered m.attributes := by
  rw [attributes_ofRow? h]
  exact KeyMap.ordered_ofEntries _

end Model

/-! ## The steps of a history -/

/-- What is done with a record in hand. -/
inductive Model.Step where
  | set (name : String) (value : Json)
  | insert
  | update
  | delete

namespace Connection

variable {σ : Type} (conn : Connection σ)

/-- What a step hands back, and whether it failed. -/
def perform (m : Model) : Model.Step → StateM (World σ) (Model × Except Error Unit)
  | .set name value => return m.assign name value
  | .insert => m.insert conn
  | .update => do
    let (m, outcome) ← m.update conn
    return (m, outcome.map fun _ => ())
  | .delete => m.delete conn

/-- The record in hand after a step, whether it failed or not. -/
def step (m : Model) (step : Model.Step) (w : World σ) : Model × World σ :=
  let ((m, _), w) := (conn.perform m step).run w
  (m, w)

/-- The record in hand after some steps. -/
def history (m : Model) (w : World σ) : List Model.Step → Model × World σ
  | [] => (m, w)
  | first :: rest => history (conn.step m first w).1 (conn.step m first w).2 rest

variable {conn : Connection σ} {m m' : Model} {w w' : World σ}

/-- The response to a request that succeeds is held. -/
theorem lastResponse_attempt (conn : Connection σ) (request : Request) (remaining : Nat)
    {retries waited : Nat} {response : Response}
    (h : eval (conn.attempt request retries waited remaining) w = (.ok response, w')) :
    w'.lastResponse = some response := by
  have honce : ∀ {retries waited : Nat} {w w' : World σ},
      eval (conn.attemptOnce request retries waited) w = (.ok (.answered response), w') →
      w'.lastResponse = some response := by
    intro retries waited w w' h
    cases hw : w.cancelled with
    | true =>
      rw [eval_attemptOnce_of_cancelled conn request hw] at h
      cases h
    | false =>
      rw [eval_attemptOnce hw] at h
      cases houtcome : (conn.trial request w).outcome with
      | ok answered =>
        rw [houtcome] at h
        cases h
        show heldAfter (conn.trial request w).outcome w.lastResponse = _
        rw [houtcome]
        rfl
      | error e =>
        rw [houtcome] at h
        dsimp only at h
        split at h <;> cases h
  -- Whichever attempt is the last, it is the one that was answered, and it held the response.
  induction remaining generalizing retries waited w with
  | zero =>
    obtain ⟨answered | ⟨e, wait⟩, w₁, hfirst, h⟩ := exists_of_eval_bind h
    · cases h
      exact honce hfirst
    · cases h
  | succ remaining ih =>
    obtain ⟨answered | ⟨e, wait⟩, w₁, hfirst, h⟩ := exists_of_eval_bind h
    · cases h
      exact honce hfirst
    · obtain ⟨_, w₂, -, h⟩ := exists_of_eval_bind h
      exact ih h

theorem lastResponse_execute {request : Request} {response : Response}
    (h : eval (conn.execute request) w = (.ok response, w')) : w'.lastResponse = some response := by
  obtain ⟨asked, heval⟩ := eval_execute conn request w
  exact lastResponse_attempt conn _ _ (heval ▸ h)

/-- An insertion that fails hands the record back as it was. One that does not hands it back with
the answer taken over, stored as it is then. -/
theorem of_insert {outcome : Except Error Unit}
    (h : (m.insert conn).run w = ((m', outcome), w')) :
    (∃ e, outcome = .error e ∧ m' = m) ∨
      ∃ response, outcome = .ok () ∧ w'.lastResponse = some response ∧
        m' = (m.absorb response.body).markClean := by
  rw [run_insert] at h
  rcases hpost : eval (conn.postModel m) w with ⟨e | response, after⟩
  · rw [hpost] at h
    cases h
    exact .inl ⟨e, rfl, rfl⟩
  · rw [hpost] at h
    cases h
    obtain ⟨c, w₁, -, hresponse⟩ := exists_of_eval_bind hpost
    exact .inr ⟨response, rfl, lastResponse_execute hresponse, rfl⟩

/-- A change that fails hands the record back as it was. One that does not sends nothing if nothing
has changed, and else hands the record back as it is stored. -/
theorem of_update {outcome : Except Error Bool}
    (h : (m.update conn).run w = ((m', outcome), w')) :
    (∃ e, outcome = .error e ∧ m' = m) ∨
      (m.dirty = [] ∧ m' = m ∧ outcome = .ok false ∧ w' = w) ∨
      (m.dirty ≠ [] ∧ m' = m.markClean ∧ outcome = .ok true) := by
  rw [run_update] at h
  split at h
  · rename_i hclean
    cases h
    exact .inr (.inl ⟨List.isEmpty_iff.mp hclean, rfl, rfl, rfl⟩)
  · rename_i hdirty
    rcases hput : eval (conn.putModel m) w with ⟨e | response, after⟩
    · rw [hput] at h
      cases h
      exact .inl ⟨e, rfl, rfl⟩
    · rw [hput] at h
      cases h
      exact .inr (.inr ⟨mt List.isEmpty_iff.mpr hdirty, rfl, rfl⟩)

/-- A removal that fails hands the record back as it was, and one that does not as a new one. -/
theorem of_delete {outcome : Except Error Unit}
    (h : (m.delete conn).run w = ((m', outcome), w')) :
    (∃ e, outcome = .error e ∧ m' = m) ∨ (outcome = .ok () ∧ m' = m.forget) := by
  rw [run_delete] at h
  rcases hremove : eval (conn.removeModel m) w with ⟨e | response, after⟩
  · rw [hremove] at h
    cases h
    exact .inl ⟨e, rfl, rfl⟩
  · rw [hremove] at h
    cases h
    exact .inr ⟨rfl, rfl⟩

/-- An attribute that is refused is not set. -/
theorem of_assign {name : String} {value : Json} {outcome : Except Error Unit}
    (h : m.assign name value = (m', outcome)) :
    (∃ e, outcome = .error e ∧ m' = m) ∨
      (outcome = .ok () ∧ m' = { m with attributes := KeyMap.insert m.attributes name value }) := by
  unfold Model.assign at h
  cases hcheck : m.checkAttribute name with
  | error e =>
    rw [hcheck] at h
    cases h
    exact .inl ⟨e, rfl, rfl⟩
  | ok _ =>
    rw [hcheck] at h
    cases h
    exact .inr ⟨rfl, rfl⟩

/-! ## What the steps do -/

/-- Whether a record is as the server holds it: a change of it succeeds, and sends nothing. -/
structure Settled (conn : Connection σ) (m : Model) : Prop where
  clean : m.dirty = []
  update : ∀ w, (m.update conn).run w = ((m, .ok false), w)

end Connection

/-- What a record becomes that takes over an answer: the declared attributes of an object are put
over its own. -/
structure Model.TakesOver (m m' : Model) (body : Json) : Prop where
  schema : m'.schema = m.schema
  related : m'.related = m.related
  object : ∀ members, body = .object members → (KeyMap.keys members).Nodup → ∀ name,
    KeyMap.get? m'.attributes name =
      if m.schema.hasField name then
        (KeyMap.get? members name).or (KeyMap.get? m.attributes name)
      else KeyMap.get? m.attributes name
  other : (∀ members, body ≠ .object members) → m'.attributes = m.attributes

/-- A record that absorbs an answer, and is stored as it is then, takes it over. -/
theorem Model.takesOver_absorb (m : Model) (body : Json) :
    m.TakesOver (m.absorb body).markClean body := by
  have hframe : (m.absorb body).schema = m.schema ∧ (m.absorb body).related = m.related := by
    cases body <;> exact ⟨rfl, rfl⟩
  refine ⟨hframe.1, hframe.2, ?_, fun hother => ?_⟩
  · rintro members rfl hkeys
    exact m.get?_absorb hkeys
  · cases body with
    | object members => exact absurd rfl (hother members)
    | _ => rfl

namespace Connection

variable {σ : Type}

/-- What the steps do with a record in hand, whatever the server answers. -/
structure Consistent (conn : Connection σ) (m : Model) : Prop where
  /-- A step that fails hands the record back as it was. -/
  failed : ∀ step w m' e w', (conn.perform m step).run w = ((m', .error e), w') → m' = m
  /-- Setting an attribute changes nothing of what the server is known to hold, nor the key under
  which it holds the record. -/
  assigned : ∀ name value m', m.assign name value = (m', .ok ()) →
    m'.snapshot = m.snapshot ∧ m'.related = m.related ∧
      (m.isNew = false → m'.heldKey? = m.heldKey?)
  /-- A change sends the attributes that differ from those that the server holds, if there are any,
  and sends them under the key that it holds, or that a new record has. -/
  differs : KeyMap.Ordered m.dirty ∧
    ∀ name value, KeyMap.get? m.dirty name = some value ↔ m.Differs name value
  puts : ∀ w : World σ, w.Adds (fun r => (∃ name value, m.Differs name value) ∧
    r.method = .put ∧ r.body = some (.object m.dirty) ∧
    ∃ key, Model.keyOf? m.schema (m.snapshot.getD m.attributes) = some key ∧
      (Key.text key ≠ "" →
        r.path = trim m.schema.resourcePath ++ "/" ++ Key.segment (Key.text key)))
    ((m.update conn).run w).2
  reaches : (∃ name value, m.Differs name value) → ∀ key, m.heldKey? = some key →
    ∀ w, w.cancelled = false → w.sent.length < ((m.update conn).run w).2.sent.length
  unchanged : (∀ name value, ¬ m.Differs name value) → conn.Settled m
  updated : ∀ w m' changed w', (m.update conn).run w = ((m', .ok changed), w') →
    m'.attributes = m.attributes ∧ m'.related = m.related ∧
      (changed = true ↔ ∃ name value, m.Differs name value) ∧ conn.Settled m'
  /-- An inserted record takes over the answer, and is then as the server holds it. -/
  inserted : ∀ w m' w', (m.insert conn).run w = ((m', .ok ()), w') →
    ∃ response, w'.lastResponse = some response ∧ m.TakesOver m' response.body ∧ conn.Settled m'
  /-- A record that was removed is new, with the attributes that it had. -/
  removed : ∀ w m' w', (m.delete conn).run w = ((m', .ok ()), w') →
    m'.isNew = true ∧ m'.attributes = m.attributes ∧ m'.related = m.related

variable {m m' : Model} {w w' : World σ}

/-- A record without an attribute that differs is settled. -/
theorem settled_of_dirty (conn : Connection σ) (h : m.dirty = []) : conn.Settled m where
  clean := h
  update w := by rw [run_update, if_pos (List.isEmpty_iff.mpr h)]

/-- The server holds a record as it was stored. -/
theorem settled_markClean (conn : Connection σ) (hm : KeyMap.Ordered m.attributes) :
    conn.Settled m.markClean := conn.settled_of_dirty (Model.dirty_markClean hm)

/-- What has changed is put under the key that the server holds. -/
theorem sends_putModel (conn : Connection σ) (m : Model) :
    (conn.putModel m).Sends fun r => r.method = .put ∧ r.body = some (.object m.dirty) ∧
      ∃ key, Model.keyOf? m.schema (m.snapshot.getD m.attributes) = some key ∧
        (Key.text key ≠ "" →
          r.path = trim m.schema.resourcePath ++ "/" ++ Key.segment (Key.text key)) := by
  intro w
  have hwrite : conn.putModel m =
      conn.writeBy m .update fun c key => conn.update c (some key) (.object m.dirty) := rfl
  rw [hwrite]
  cases hkey : m.heldKey? with
  | none =>
    have hsegment : m.keySegment? = none := congrArg (Option.map Key.text) hkey
    rw [eval_writeBy_of_missing conn _ hsegment]
    exact World.adds_of_sent_eq rfl
  | some key =>
    have hsegment : m.keySegment? = some (Key.text key) := congrArg (Option.map Key.text) hkey
    obtain ⟨c, huri, hrun⟩ := eval_writeBy conn
      (fun c key => conn.update c (some key) (.object m.dirty)) hsegment .update w
    obtain ⟨more, hmore, hall⟩ := sends_execute conn
      { method := .put, path := c.writePath (some (Key.text key)), headers := c.descriptor.headers
        body := some (.object m.dirty) } { w with asked := w.asked + 1 }
    refine ⟨more, by rw [hrun]; exact hmore, fun s hs => ?_⟩
    obtain ⟨headers, hr⟩ := hall s hs
    rw [hr]
    refine ⟨rfl, rfl, key, hkey, fun hne => ?_⟩
    show c.writePath (some (Key.text key)) = _
    rw [Command.writePath, if_neg hne, huri, Command.itemPath]

/-- A change sends what a put of what has changed sends, if anything has. -/
theorem world_update (conn : Connection σ) (m : Model) (w : World σ) :
    ((m.update conn).run w).2 =
      if m.dirty.isEmpty then w else (eval (conn.putModel m) w).2 := by
  rw [run_update]
  split
  · rfl
  · rcases eval (conn.putModel m) w with ⟨_ | response, after⟩ <;> rfl

/-- What a step makes of a record: it is left as it is, or it is set, stored or removed. -/
theorem of_perform {conn : Connection σ} {step : Model.Step} {outcome : Except Error Unit}
    (h : (conn.perform m step).run w = ((m', outcome), w')) :
    m' = m ∨ outcome = .ok () ∧
      ((∃ name value, m' = { m with attributes := KeyMap.insert m.attributes name value }) ∨
        (∃ body, m' = (m.absorb body).markClean) ∨ m' = m.markClean ∨ m' = m.forget) := by
  cases step with
  | set name value =>
    have hassign : m.assign name value = (m', outcome) := congrArg Prod.fst h
    obtain ⟨e, -, hsame⟩ | ⟨hok, hset⟩ := of_assign hassign
    · exact .inl hsame
    · exact .inr ⟨hok, .inl ⟨name, value, hset⟩⟩
  | insert =>
    obtain ⟨e, -, hsame⟩ | ⟨response, hok, -, hstored⟩ := of_insert h
    · exact .inl hsame
    · exact .inr ⟨hok, .inr (.inl ⟨response.body, hstored⟩)⟩
  | update =>
    rcases hupdate : (m.update conn).run w with ⟨⟨updated, changed⟩, after⟩
    have hrun : (conn.perform m .update).run w =
        ((updated, changed.map fun _ => ()), after) := by
      rw [perform, run_bind, hupdate]
      rfl
    cases hrun.symm.trans h
    obtain ⟨e, -, hsame⟩ | ⟨-, hsame, -⟩ | ⟨-, hstored, hok⟩ := of_update hupdate
    · exact .inl hsame
    · exact .inl hsame
    · exact .inr ⟨by rw [hok]; rfl, .inr (.inr (.inl hstored))⟩
  | delete =>
    obtain ⟨e, -, hsame⟩ | ⟨hok, hforgotten⟩ := of_delete h
    · exact .inl hsame
    · exact .inr ⟨hok, .inr (.inr (.inr hforgotten))⟩

/-- Every step keeps the attributes of the record in hand in order. -/
theorem ordered_step (conn : Connection σ) (step : Model.Step) (hm : KeyMap.Ordered m.attributes)
    (w : World σ) : KeyMap.Ordered (conn.step m step w).1.attributes := by
  rcases h : (conn.perform m step).run w with ⟨⟨m', outcome⟩, w'⟩
  rw [Connection.step, h]
  obtain rfl | ⟨-, ⟨name, value, rfl⟩ | ⟨body, rfl⟩ | rfl | rfl⟩ := of_perform h
  -- Only setting an attribute and taking over an answer put anything among the attributes.
  · exact hm
  · exact hm.insert name value
  · exact Model.ordered_absorb hm body
  · exact hm
  · exact hm

/-- After any steps, the attributes of the record in hand are in order. -/
theorem ordered_history (conn : Connection σ) (hm : KeyMap.Ordered m.attributes) (w : World σ)
    (steps : List Model.Step) : KeyMap.Ordered (conn.history m w steps).1.attributes := by
  induction steps generalizing m w with
  | nil => exact hm
  | cons first rest ih => exact ih (conn.ordered_step first hm w) _

/-- What the steps do with a record whose attributes are in order. -/
theorem consistent_of_ordered (conn : Connection σ) (hm : KeyMap.Ordered m.attributes) :
    conn.Consistent m where
  failed step w m' e w' h := (of_perform h).resolve_right fun hok => nomatch hok.1
  assigned name value m' h := by
    obtain ⟨-, rfl⟩ := (of_assign h).resolve_left fun ⟨_, herror, _⟩ => nomatch herror
    refine ⟨rfl, rfl, fun hstored => ?_⟩
    obtain ⟨old, hold⟩ := Option.isSome_iff_exists.mp (Option.isNone_eq_false_iff.mp hstored)
    show Model.keyOf? m.schema (m.snapshot.getD _) = Model.keyOf? m.schema (m.snapshot.getD _)
    rw [hold]
    rfl
  differs := ⟨Model.ordered_dirty hm, Model.get?_dirty hm⟩
  puts w := by
    rw [world_update]
    split
    · exact World.adds_of_sent_eq rfl
    · rename_i hdirty
      have hdiffers := (Model.dirty_ne_nil_iff hm).mp (mt List.isEmpty_iff.mpr hdirty)
      exact (sends_putModel conn m w).mono fun r hput => ⟨hdiffers, hput⟩
  reaches hdiffers key hkey w hw := by
    rw [world_update, if_neg (mt List.isEmpty_iff.mp ((Model.dirty_ne_nil_iff hm).mpr hdiffers))]
    exact conn.sent_lt_putModel (congrArg (Option.map Key.text) hkey) hw
  unchanged hsame := by
    refine conn.settled_of_dirty ?_
    by_contra hdirty
    obtain ⟨name, value, hdiffers⟩ := (Model.dirty_ne_nil_iff hm).mp hdirty
    exact hsame name value hdiffers
  updated w m' changed w' h := by
    rw [← Model.dirty_ne_nil_iff hm]
    obtain ⟨e, herror, -⟩ | ⟨hclean, rfl, hsent, -⟩ | ⟨hdirty, rfl, hsent⟩ := of_update h
    · cases herror
    · cases hsent
      exact ⟨rfl, rfl, ⟨nofun, fun hdirty => absurd hclean hdirty⟩, conn.settled_of_dirty hclean⟩
    · cases hsent
      exact ⟨rfl, rfl, ⟨fun _ => hdirty, fun _ => rfl⟩, conn.settled_markClean hm⟩
  inserted w m' w' h := by
    obtain ⟨response, -, hresponse, rfl⟩ :=
      (of_insert h).resolve_left fun ⟨_, herror, _⟩ => nomatch herror
    refine ⟨response, hresponse, Model.takesOver_absorb m response.body, ?_⟩
    exact conn.settled_markClean (Model.ordered_absorb hm response.body)
  removed w m' w' h := by
    obtain ⟨-, rfl⟩ := (of_delete h).resolve_left fun ⟨_, herror, _⟩ => nomatch herror
    exact ⟨rfl, rfl, rfl⟩

/-- After any steps, each of which may have failed, a further step does what it says with the record
in hand. -/
theorem history_consistent (conn : Connection σ) (hm : KeyMap.Ordered m.attributes) (w : World σ)
    (steps : List Model.Step) : conn.Consistent (conn.history m w steps).1 :=
  conn.consistent_of_ordered (conn.ordered_history hm w steps)

/-- A track that is given another key goes on to be changed under the old one until a change
succeeds; the first is refused. -/
theorem history_consistent_reassigned :
    let track : Schema := { typeName := "Track", fields := ["id", "title"] }
    let row : Json := .object [("id", .nat 1), ("title", .text "first")]
    let conn : Connection Bool :=
      { catalog := [track], config := {}, auth := .none, pageBudget := 1
        answer := fun _ accepts => (.ok { status := if accepts then 204 else 422 }, true) }
    let m := Model.ofFields track row
    let steps : List Model.Step :=
      [.set "id" (.nat 9), .update, .update, .set "title" (.text "second"), .update]
    let done := conn.history m { backend := false } steps
    KeyMap.Ordered m.attributes ∧
      done.2.sent.map (fun s => (s.request.path, s.request.body)) =
        [("tracks/1", some (.object [("id", .nat 9)])),
          ("tracks/1", some (.object [("id", .nat 9)])),
          ("tracks/9", some (.object [("title", .text "second")]))] ∧
      conn.Consistent done.1 := by
  intro track row conn m steps done
  have hread : Model.ofRow? [track] true track row = .ok m := rfl
  have hm : KeyMap.Ordered m.attributes := Model.ordered_ofRow? hread
  exact ⟨hm, by decide +kernel, conn.history_consistent hm { backend := false } steps⟩

end Connection

end RestQuery
