import RestQuery.Proofs.Connection.Sends
import RestQuery.Proofs.Page.Respects
import RestQuery.Proofs.Store
import RestQuery.Proofs.Store.Routes

/-!
# Reading from a store

A store answers a request by its rows alone (`Store.answerTo`), and no failure that it tells is one
that passes, so it is not asked again. `World.Holds` is what is known of a store without queued
replies: `World.Holds.eval_execute_once` says that a request is answered by what the store holds,
and `World.Holds.eval_execute` that a request to read leaves it there.

`Session.Steady` says of a session that it leaves a property of the world as it was, and that its
outcome is the same in every world with this property. Reading a page, draining a cursor and loading
relations, however deep they go, are steady as long as a store holds what it does
(`Connection.loader_steady`, `Connection.steady_all`).
-/

namespace RestQuery

open Session

namespace Store

variable {s : Settings} {st : Store} {request : Request}

/-- What a store that holds some collections answers to a request where no reply is queued. -/
def answerTo (s : Settings) (collections : KeyMap (List Json)) (request : Request) : Response :=
  (handle s { collections := collections } request).1

/-- The collections that a store holds after a request where no reply is queued. -/
def collectionsAfter (s : Settings) (collections : KeyMap (List Json)) (request : Request) :
    KeyMap (List Json) :=
  (handle s { collections := collections } request).2.collections

/-- A request is answered by the collections, and changes nothing else of the store. -/
theorem handle_eq (s : Settings) (st : Store) (request : Request) :
    handle s st request = (answerTo s st.collections request,
      { st with collections := collectionsAfter s st.collections request }) := by
  unfold answerTo collectionsAfter handle
  dsimp only
  cases KeyMap.get? st.collections (collectionPath request.path) with
  | some rows => cases hmethod : request.method <;> simp only [onCollection, hmethod]
  | none =>
    dsimp only
    split
    · cases hmethod : request.method <;> simp only [onItem, hmethod]
    · rfl

/-- A request to read leaves the collections as they are. -/
theorem collectionsAfter_get (hget : request.method = .get) (collections : KeyMap (List Json)) :
    collectionsAfter s collections request = collections := by
  have hhandled := handled s { collections := collections } request
  unfold collectionsAfter
  generalize handle s { collections := collections } request = outcome at hhandled ⊢
  cases hhandled with
  | collection hrows => simp only [onCollection, hget]
  | row haddresses hfirst => simp only [onItem, hget]
  | missing => rfl

/-- What is read under the path of a collection is a list of its rows. -/
theorem answerTo_collection {collections : KeyMap (List Json)} {rows : List Json}
    (hget : request.method = .get)
    (hrows : KeyMap.get? collections (collectionPath request.path) = some rows) :
    answerTo s collections request = list s rows request := by
  unfold answerTo
  rw [handle_collection hrows]
  simp only [onCollection, hget]

/-- A store does not look at the headers. -/
theorem answerTo_headers (collections : KeyMap (List Json)) (headers : KeyMap String) :
    answerTo s collections { request with headers := headers } =
      answerTo s collections request := by
  simp only [answerTo, handle, onCollection, onItem, list, Settings.pageSizeFor, pageFor,
    Request.queryValue?]

theorem collectionsAfter_headers (collections : KeyMap (List Json)) (headers : KeyMap String) :
    collectionsAfter s collections { request with headers := headers } =
      collectionsAfter s collections request := by
  simp only [collectionsAfter, handle, onCollection, onItem, list, Settings.pageSizeFor, pageFor,
    Request.queryValue?]

/-- The statuses that a store answers with. -/
theorem status_answerTo (s : Settings) (collections : KeyMap (List Json)) (request : Request) :
    (answerTo s collections request).status ∈ [200, 201, 204, 404, 405] := by
  have hhandled := handled s { collections := collections } request
  unfold answerTo
  generalize handle s { collections := collections } request = outcome at hhandled ⊢
  cases hhandled with
  | collection hrows =>
    cases hmethod : request.method <;>
      simp [onCollection, hmethod, list, notAllowed, Response.withHeader]
  | row haddresses hfirst =>
    cases hmethod : request.method <;> simp [onItem, hmethod, notAllowed, Response.withHeader]
  | missing => simp

/-- No failure of a store is one that passes. -/
theorem isTransient_of_check_answerTo {collections : KeyMap (List Json)} {e : Error}
    (h : (answerTo s collections request).check = .error e) : e.isTransient = false := by
  have hstatus := status_answerTo s collections request
  unfold Response.check at h
  generalize (answerTo s collections request).status = status at h hstatus
  -- The first three statuses are successes, and the others tell failures that stay.
  simp only [List.mem_cons, List.not_mem_nil, or_false] at hstatus
  obtain rfl | rfl | rfl | rfl | rfl := hstatus <;> cases h <;> rfl

end Store

/-! ## A request to a store -/

/-- A connection that is open leads to a store that holds some collections, and no reply is
queued there. -/
structure World.Holds (collections : KeyMap (List Json)) (w : World Store) : Prop
    extends w.Open where
  queued : w.backend.queued = []
  collections : w.backend.collections = collections

/-- Over a connection that is not cancelled, a store without queued replies is sent a request once,
and answers it by what it holds. -/
theorem Store.eval_execute {conn : Connection Store} {s : Store.Settings} {w : World Store}
    (hanswer : conn.answer = Store.send s) (hlive : w.cancelled = false)
    (hqueued : w.backend.queued = []) (request : Request) :
    ∃ w', eval (conn.execute request) w =
        ((Store.answerTo s w.backend.collections request).check, w') ∧
      w'.backend.queued = [] ∧
      w'.backend.collections = Store.collectionsAfter s w.backend.collections request ∧
      w'.sent.length = w.sent.length + 1 ∧ (w.Open → w'.Open) := by
  obtain ⟨asked, heval⟩ := Connection.eval_execute conn request w
  obtain ⟨headers, hheaders⟩ := conn.authorized_eq request w
  let w₁ : World Store := { w with asked := asked, lastResponse := none }
  let sent : Request := conn.authorized request w
  -- The credential is in the headers, which a store does not read.
  have hanswerTo : Store.answerTo s w.backend.collections sent =
      Store.answerTo s w.backend.collections request := by
    show Store.answerTo s _ (conn.authorized request w) = _
    rw [hheaders, Store.answerTo_headers]
  have hafter : Store.collectionsAfter s w.backend.collections sent =
      Store.collectionsAfter s w.backend.collections request := by
    show Store.collectionsAfter s _ (conn.authorized request w) = _
    rw [hheaders, Store.collectionsAfter_headers]
  have hreply : conn.answer sent w₁.backend =
      (.ok (Store.answerTo s w.backend.collections request),
        { w.backend with
          collections := Store.collectionsAfter s w.backend.collections request
          requests := w.backend.requests ++ [sent] }) := by
    have hqueued₁ : w₁.backend.queued = [] := hqueued
    rw [hanswer, Store.send]
    simp only [hqueued₁, Store.handle_eq]
    rw [← hqueued, ← hanswerTo, ← hafter]
  have houtcome : (conn.trial sent w₁).outcome =
      (Store.answerTo s w.backend.collections request).check := by
    rw [Trial.outcome, Connection.trial, hreply]
    rfl
  -- No failure of a store is one that passes, so there is no second attempt.
  have hnone : conn.waitAfter? (conn.trial sent w₁) 0 0 = none :=
    Connection.waitAfter?_eq_none
      (fun e he => Store.isTransient_of_check_answerTo (houtcome.symm.trans he)) 0 0
  refine ⟨conn.tried sent w₁, ?_, ?_, ?_, ?_, fun hopen => ?_⟩
  · rw [heval, Connection.eval_attempt_last (w := w₁) hlive hnone, houtcome]
  · show (conn.answer sent w₁.backend).2.queued = []
    rw [hreply]
    exact hqueued
  · show (conn.answer sent w₁.backend).2.collections = _
    rw [hreply]
  · show (w.sent ++ [_]).length = _
    rw [List.length_append, List.length_singleton]
  · exact conn.open_tried sent (w := w₁) ⟨hopen.live, hopen.undisturbed⟩

namespace World.Holds

variable {conn : Connection Store} {s : Store.Settings} {collections : KeyMap (List Json)}
  {w : World Store} {request : Request}

/-- A request is sent once, and answered by what the store holds. -/
theorem eval_execute_once (hanswer : conn.answer = Store.send s) (hw : w.Holds collections)
    (request : Request) :
    ∃ w', eval (conn.execute request) w = ((Store.answerTo s collections request).check, w') ∧
      w'.Holds (Store.collectionsAfter s collections request) ∧
      w'.sent.length = w.sent.length + 1 := by
  obtain ⟨w', heval, hqueued, hafter, hsent, hopen⟩ :=
    Store.eval_execute hanswer hw.live hw.queued request
  rw [hw.collections] at heval hafter
  exact ⟨w', heval, ⟨hopen hw.toOpen, hqueued, hafter⟩, hsent⟩

/-- A request to read is sent once, and leaves what the store holds as it is. -/
theorem eval_execute (hanswer : conn.answer = Store.send s) (hw : w.Holds collections)
    (hget : request.method = .get) :
    ∃ w', eval (conn.execute request) w = ((Store.answerTo s collections request).check, w') ∧
      w'.Holds collections ∧ w'.sent.length = w.sent.length + 1 := by
  have honce := hw.eval_execute_once hanswer request
  rw [Store.collectionsAfter_get hget] at honce
  exact honce

/-- The page of a cursor's query is what the store answers to the compiled query. -/
theorem eval_fetch (hanswer : conn.answer = Store.send s) (hw : w.Holds collections) (c : Cursor) :
    ∃ w', eval (c.fetch conn) w =
        ((c.query.describe conn.catalog conn.config []).bind fun d =>
          (Store.answerTo s collections (d.request .get)).check, w') ∧
      w'.Holds collections ∧ w'.sent.length ≤ w.sent.length + 1 := by
  rw [Cursor.eval_fetch, Cursor.pageRequest]
  cases c.query.describe conn.catalog conn.config [] with
  | error e => exact ⟨w, rfl, hw, Nat.le_succ _⟩
  | ok d =>
    have hasked : { w with asked := w.asked + 1 }.Holds collections :=
      ⟨⟨hw.live, hw.undisturbed⟩, hw.queued, hw.collections⟩
    let plain := d.request .get
    let signed : Request := { plain with headers := conn.auth.headers w.asked }
    have hget : signed.method = .get := rfl
    obtain ⟨w', heval, hholds, hsent⟩ := hasked.eval_execute hanswer hget
    rw [Store.answerTo_headers] at heval
    exact ⟨w', heval, hholds, Nat.le_of_eq hsent⟩

/-- A page is read from what the store answers to the compiled query. -/
theorem outcome_readPage (hanswer : conn.answer = Store.send s) (hw : w.Holds collections)
    (load : Loader Store) (c : Cursor) :
    ∃ w₁, w₁.Holds collections ∧ (eval (c.readPage conn load) w).1 =
      ((c.query.describe conn.catalog conn.config []).bind fun d =>
          (Store.answerTo s collections (d.request .get)).check).bind fun response =>
        (eval (Cursor.materialize conn load c.query
          (response.rows conn.config.envelope)) w₁).1.map fun models =>
            (Page.Info.ofResponse conn.config.pageHeaders response, models) := by
  obtain ⟨w₁, hfetch, hw₁, -⟩ := hw.eval_fetch hanswer c
  refine ⟨w₁, hw₁, ?_⟩
  rw [Cursor.readPage, eval_bind, hfetch]
  cases (c.query.describe conn.catalog conn.config []).bind fun d =>
      (Store.answerTo s collections (d.request .get)).check with
  | error e => rfl
  | ok response =>
    dsimp only
    rw [eval_bind]
    show _ = (eval (Cursor.materialize conn load c.query _) w₁).1.map _
    rcases eval (Cursor.materialize conn load c.query (response.rows conn.config.envelope)) w₁ with
      ⟨e | models, w₂⟩ <;> rfl

/-- A page of a collection is read from the list of its rows. -/
theorem outcome_readPage_list (hanswer : conn.answer = Store.send s) (hw : w.Holds collections)
    (load : Loader Store) {c : Cursor} {d : Descriptor} {rows : List Json}
    (hd : c.query.describe conn.catalog conn.config [] = .ok d)
    (hrows : KeyMap.get? collections (Store.collectionPath d.uri) = some rows) :
    ∃ w₁, w₁.Holds collections ∧ (eval (c.readPage conn load) w).1 =
      (eval (Cursor.materialize conn load c.query
        ((Store.list s rows (d.request .get)).rows conn.config.envelope)) w₁).1.map fun models =>
          (Page.Info.ofResponse conn.config.pageHeaders (Store.list s rows (d.request .get)),
            models) := by
  obtain ⟨w₁, hw₁, hread⟩ := hw.outcome_readPage hanswer load c
  refine ⟨w₁, hw₁, ?_⟩
  have hlist : Store.answerTo s collections (d.request .get) =
      Store.list s rows (d.request .get) := Store.answerTo_collection rfl hrows
  rw [hread, hd]
  show Except.bind (Store.answerTo s collections (d.request .get)).check _ = _
  rw [hlist, Store.check_list]
  rfl

end World.Holds

/-! ## Sessions that only read -/

namespace Session

variable {σ α β : Type} {I : World σ → Prop}

/-- Whether a session leaves a property of the world as it was, however it ends. -/
def Keeps (I : World σ → Prop) (a : Session σ α) : Prop := ∀ w, I w → I (eval a w).2

/-- Whether a session leaves a property of the world as it was, and has the same outcome in any
world that has the property. -/
structure Steady (I : World σ → Prop) (a : Session σ α) : Prop where
  keeps : a.Keeps I
  same : ∀ {w w' : World σ}, I w → I w' → (eval a w).1 = (eval a w').1

/-- A session is steady exactly if it cannot tell the worlds that have the property apart. -/
theorem steady_iff_respects (a : Session σ α) :
    a.Steady I ↔ Respects (fun w w' => I w ∧ I w') a.run := by
  constructor
  · intro h w w' ⟨hw, hw'⟩
    exact ⟨h.same hw hw', h.keeps w hw, h.keeps w' hw'⟩
  · intro h
    exact ⟨fun w hw => (h w w ⟨hw, hw⟩).2.1, fun {w w'} hw hw' => (h w w' ⟨hw, hw'⟩).1⟩

end Session

/-- Whether a loader only reads. -/
def Loader.Steady {σ : Type} (I : World σ → Prop) (load : Loader σ) : Prop :=
  ∀ models, (load models).Steady I

section

variable {σ : Type} {conn : Connection σ} {load : Loader σ} {I : World σ → Prop}

theorem Loader.steady_iff_respects :
    load.Steady I ↔ load.Respects fun w w' => I w ∧ I w' :=
  forall_congr' fun models => Session.steady_iff_respects (load models)

/-- A loader that loads nothing only reads. -/
theorem Loader.steady_pure : Loader.Steady I pure :=
  Loader.steady_iff_respects.mpr Loader.respects_pure

/-- Reading a page is steady if its request and the loading of its relations are. -/
theorem Cursor.steady_readPage (hfetch : ∀ c : Cursor, (c.fetch conn).Steady I)
    (hload : load.Steady I) (c : Cursor) : (c.readPage conn load).Steady I :=
  (steady_iff_respects _).mpr (Cursor.respects_readPage
    (fun c => (steady_iff_respects _).mp (hfetch c)) (Loader.steady_iff_respects.mp hload) c)

namespace Connection

/-- The loading of a query's relations is steady if the requests for pages are. -/
theorem loader_steady (hfetch : ∀ c : Cursor, (c.fetch conn).Steady I) (q : Query) :
    Loader.Steady I (conn.loader q) :=
  Loader.steady_iff_respects.mpr
    (loader_respects (fun c => (steady_iff_respects _).mp (hfetch c)) q)

/-- Reading all records of a query is steady if the requests for pages are. -/
theorem steady_all (hfetch : ∀ c : Cursor, (c.fetch conn).Steady I) (q : Query) :
    (conn.all q).Steady I := by
  have hrespects := fun c => (steady_iff_respects _).mp (hfetch c)
  exact (steady_iff_respects _).mpr (respects_allWith hrespects (loader_respects hrespects q) q)

end Connection

end

/-- The requests for the pages of queries are steady over a store, as long as it holds what it does.
-/
theorem Cursor.steady_holds {conn : Connection Store} {s : Store.Settings}
    (hanswer : conn.answer = Store.send s) (collections : KeyMap (List Json)) (c : Cursor) :
    (c.fetch conn).Steady (World.Holds collections) := by
  constructor
  · intro w hw
    obtain ⟨after, heval, hholds, -⟩ := hw.eval_fetch hanswer c
    rw [heval]
    exact hholds
  · intro w w' hw hw'
    obtain ⟨after, heval, -⟩ := hw.eval_fetch hanswer c
    obtain ⟨after', heval', -⟩ := hw'.eval_fetch hanswer c
    rw [heval, heval']

section

variable {conn : Connection Store} {s : Store.Settings} {collections : KeyMap (List Json)}

/-- Over a store, the loader of a query only reads. -/
theorem Connection.loader_holds (hanswer : conn.answer = Store.send s) (q : Query) :
    Loader.Steady (World.Holds collections) (conn.loader q) :=
  loader_steady (Cursor.steady_holds hanswer collections) q

/-- Over a store, reading a page with a loader that only reads leaves the collections alone. -/
theorem Cursor.keeps_readPage {load : Loader Store} (hanswer : conn.answer = Store.send s)
    (hload : Loader.Steady (World.Holds collections) load) (c : Cursor) :
    (c.readPage conn load).Keeps (World.Holds collections) :=
  (steady_readPage (steady_holds hanswer collections) hload c).keeps

/-- Over a store, it does not matter when the rows of a response are read. -/
theorem Cursor.same_materialize (hanswer : conn.answer = Store.send s) (q p : Query)
    (rows : List Json) {w w' : World Store} (hw : w.Holds collections)
    (hw' : w'.Holds collections) :
    (eval (materialize conn (conn.loader q) p rows) w).1 =
      (eval (materialize conn (conn.loader q) p rows) w').1 :=
  have hload := Loader.steady_iff_respects.mp (conn.loader_holds hanswer q)
  (respects_materialize hload p rows w w' ⟨hw, hw'⟩).1

end

end RestQuery
