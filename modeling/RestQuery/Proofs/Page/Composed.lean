import RestQuery.Proofs.Page.Cursor

/-!
# What passes on from requests to all that is read by them

All that is read page by page is put together from requests for single pages. So a property of
sessions that holds of computations without effects, and of a sequence where it holds of the parts,
holds of the loops over pages, of the loading of relations, which reads further queries, and of all
records of a query, if it holds of the requests for pages. `Session.Closed` says so of a property,
and what follows is proved once for all of them: that a session comes out alike in related worlds is
such a property, and that it reaches the backend by executing requests is another.
-/

namespace RestQuery

/-- Whether a property holds of all computations without effects, and passes on to sequences. -/
structure Session.Closed {σ : Type} (P : ∀ α : Type, Session σ α → Prop) : Prop where
  lift : ∀ {α : Type} (x : Except Error α), P α (liftM x)
  bind : ∀ {α β : Type} {a : Session σ α} {next : α → Session σ β}, P α a → (∀ x, P β (next x)) →
    P β (a >>= next)

namespace Session.Closed

open Cursor Connection

variable {σ : Type} {P : ∀ α : Type, Session σ α → Prop} {conn : Connection σ} {load : Loader σ}

theorem pure (h : Closed P) {α : Type} (x : α) : P α (Pure.pure x) := h.lift (.ok x)

/-- Reading the rows of a response has the property if loading the relations has it. -/
theorem materialize (h : Closed P) (hload : ∀ models, P _ (load models)) (q : Query)
    (rows : List Json) : P _ (materialize conn load q rows) := by
  unfold Cursor.materialize
  split
  · exact h.pure _
  · exact h.bind (h.lift _) fun s => h.bind (h.lift _) fun models => hload models

/-- Reading a page has the property if its request has it, and the loading of its relations. -/
theorem readPage (h : Closed P) (hfetch : ∀ c : Cursor, P _ (c.fetch conn))
    (hload : ∀ models, P _ (load models)) (c : Cursor) : P _ (c.readPage conn load) :=
  h.bind (hfetch c) fun _ => h.bind (h.materialize hload _ _) fun _ => h.pure _

/-- Draining a cursor has the property if reading its pages has it. -/
theorem drain (h : Closed P) (hread : ∀ c : Cursor, P _ (c.readPage conn load)) (budget : Nat)
    (records : RecordSet) (c : Cursor) : P _ (c.drain conn load records budget) := by
  -- Which page is read next depends on the pages before, so the induction is over any cursor.
  induction budget generalizing records c with
  | zero => exact h.lift (.error .unfinished)
  | succ budget ih =>
    rw [drain_page]
    dsimp only
    generalize ({ c with buffer := [] } : Cursor).labelAll c.buffer = handed
    cases handed.1.advance? conn.config with
    | none => exact h.pure _
    | some asked =>
      refine h.bind (hread asked) fun (page, models) => ?_
      dsimp only
      split
      · exact h.pure _
      · exact ih _ _

/-- Reading all records of a query has the property if its requests have it, and the loading of its
relations. -/
theorem allWith (h : Closed P) (hfetch : ∀ c : Cursor, P _ (c.fetch conn))
    (hload : ∀ models, P _ (load models)) (q : Query) : P _ (conn.allWith load q) :=
  h.bind (h.lift _) fun c => h.drain (h.readPage hfetch hload) conn.pageBudget .empty c

theorem loadInline (h : Closed P) (relation : Relation) (hload : ∀ models, P _ (load models))
    (models : List Model) : P _ (loadInline relation load models) :=
  h.bind (hload _) fun _ => h.lift _

theorem loadPending (h : Closed P) (hfetch : ∀ c : Cursor, P _ (c.fetch conn))
    (relation : Relation) (hload : ∀ models, P _ (load models)) (models : List Model) :
    P _ (conn.loadPending relation load models) := by
  unfold Connection.loadPending
  dsimp only
  split
  · exact h.pure _
  split
  · exact h.bind (h.allWith hfetch hload _) fun _ => h.pure _
  · exact h.pure _

mutual

/-- The loading of a tree of relations has the property if the requests for pages have it, since
that of its subtrees has it. -/
theorem loadTree (h : Closed P) (hfetch : ∀ c : Cursor, P _ (c.fetch conn)) (s : Schema) :
    ∀ (tree : RelationTree) (models : List Model), P _ (conn.loadTree s tree models)
  | .node name nested, models => by
    have hnested (t : Schema) := loadForest h hfetch t nested
    unfold Connection.loadTree
    refine h.bind (h.lift _) fun relation => ?_
    dsimp only
    split
    · exact h.bind (h.loadInline relation (hnested _) models) fun loaded =>
        h.loadPending hfetch relation (hnested _) loaded
    · exact h.loadPending hfetch relation (hnested _) models

/-- The loading of some trees of relations has the property if the requests for pages have it. -/
theorem loadForest (h : Closed P) (hfetch : ∀ c : Cursor, P _ (c.fetch conn)) (s : Schema) :
    ∀ (forest : List RelationTree) (models : List Model), P _ (conn.loadForest s forest models)
  | [], models => by
    unfold Connection.loadForest
    exact h.pure _
  | tree :: rest, models => by
    unfold Connection.loadForest
    exact h.bind (loadTree h hfetch s tree models) fun loaded => loadForest h hfetch s rest loaded

end

/-- The loading of a query's relations has the property if the requests for pages have it. -/
theorem loader (h : Closed P) (hfetch : ∀ c : Cursor, P _ (c.fetch conn)) (q : Query)
    (models : List Model) : P _ (conn.loader q models) := by
  unfold Connection.loader
  cases q.schema with
  | none => exact h.pure _
  | some s => exact h.loadForest hfetch s _ models

/-- Reading all records of a query has the property if the requests for pages have it. -/
theorem all (h : Closed P) (hfetch : ∀ c : Cursor, P _ (c.fetch conn)) (q : Query) :
    P _ (conn.all q) :=
  h.allWith hfetch (h.loader hfetch q) q

end Session.Closed

end RestQuery
