import RestQuery.Proofs.Page.Calls
import RestQuery.Proofs.Page.Composed

/-!
# Sessions in related worlds

A relation between worlds may be one that a session cannot tell apart: from related worlds it ends
alike, and in related worlds again. `Session.Respects` says so. Sequences respect what their parts
do (`Session.closed_respects`), so all that is read page by page respects a relation that the
requests for single pages respect: the reading of all records of a query, the loading of relations
(`Connection.loader_respects`), and the calls on a cursor (`Cursor.respects_nextPage`,
`Cursor.respects_nextRow`). What is said of the requests that a session sends is such a relation
(`World.Grows`).
-/

namespace RestQuery

open Session

/-- Whether two worlds are one, in which only requests with a property were sent since another. -/
def World.Grows {σ : Type} (P : Request → Prop) (start w w' : World σ) : Prop :=
  w = w' ∧ start.Adds P w

/-- A session that sends only requests with a property goes on with them. -/
theorem Session.Sends.respects {σ α : Type} {P : Request → Prop} {a : Session σ α} (h : a.Sends P)
    (start : World σ) : Respects (World.Grows P start) a.run := by
  rintro w _ ⟨rfl, hw⟩
  exact ⟨rfl, rfl, hw.trans (h w)⟩

/-- What goes on with such requests, from wherever they began, sends no others. -/
theorem World.adds_of_respects {σ α : Type} {P : Request → Prop} {a : StateM (World σ) α}
    (h : ∀ start, Respects (World.Grows P start) a) (w : World σ) : w.Adds P (a.run w).2 :=
  (h w w w ⟨rfl, adds_of_sent_eq rfl⟩).2.2

/-- Whether a loader respects a relation between worlds. -/
def Loader.Respects {σ : Type} (R : World σ → World σ → Prop) (load : Loader σ) : Prop :=
  ∀ models, Session.Respects R (load models).run

variable {σ : Type} {conn : Connection σ} {load : Loader σ} {R : World σ → World σ → Prop}

theorem Loader.respects_pure : Loader.Respects R (pure : Loader σ) :=
  fun models => Session.respects_pure (Except.ok models)

/-- That a session respects a relation passes on to sequences. -/
theorem Session.closed_respects : Session.Closed fun _ (a : Session σ _) => Respects R a.run where
  lift := respects_lift
  bind := Respects.bind

namespace Cursor

/-- Reading the rows of a response respects what loading the relations does. -/
theorem respects_materialize (hload : load.Respects R) (q : Query) (rows : List Json) :
    Respects R (materialize conn load q rows).run :=
  closed_respects.materialize hload q rows

/-- Reading a page respects what its request does, and the loading of its relations. -/
theorem respects_readPage (hfetch : ∀ c : Cursor, Respects R (c.fetch conn).run)
    (hload : load.Respects R) (c : Cursor) : Respects R (c.readPage conn load).run :=
  closed_respects.readPage hfetch hload c

/-- A call for the next page respects what the request for it does, and the loading of its
relations. -/
theorem respects_nextPage (hfetch : ∀ c : Cursor, Respects R (c.fetch conn).run)
    (hload : load.Respects R) (c : Cursor) : Respects R (c.nextPage conn load) := by
  rw [nextPage_eq]
  cases c.advance? conn.config with
  | none => exact respects_pure _
  | some asked =>
    refine (hfetch asked).andThen fun reply => ?_
    cases reply with
    | error e => exact respects_pure _
    | ok response =>
      refine (respects_materialize hload _ _).andThen fun read => ?_
      cases read with
      | error e => exact respects_pure _
      | ok models => exact respects_pure _

/-- A call for the next record respects what the request for the next page does. -/
theorem respects_nextRow (hfetch : ∀ c : Cursor, Respects R (c.fetch conn).run)
    (hload : load.Respects R) (c : Cursor) : Respects R (c.nextRow conn load) := by
  unfold nextRow
  split
  · exact respects_pure _
  · refine (respects_nextPage hfetch hload c).andThen fun result => ?_
    split
    · exact respects_pure _
    · exact respects_pure _
    · split
      · exact respects_pure _
      · exact respects_pure _

end Cursor

namespace Connection

/-- Reading all records of a query respects what its requests do, and the loading of its relations.
-/
theorem respects_allWith (hfetch : ∀ c : Cursor, Respects R (c.fetch conn).run)
    (hload : load.Respects R) (q : Query) : Respects R (conn.allWith load q).run :=
  closed_respects.allWith hfetch hload q

/-- The loading of a query's relations respects what the requests for pages do. -/
theorem loader_respects (hfetch : ∀ c : Cursor, Respects R (c.fetch conn).run) (q : Query) :
    (conn.loader q).Respects R :=
  closed_respects.loader hfetch q

end Connection

end RestQuery
