import RestQuery.Proofs.Connection.Reading
import RestQuery.Proofs.Store.Routes

/-!
# What a store keeps

Every request is logged, and takes the first of the queued replies if there is one; then the
collections stay as they are (`Store.Exchange.Conserves`). They also stay for a request to read and
for one that is refused. What is left are the requests that change one collection by one row: a row
is added behind the others, the first row with an `id` is changed in the members that the body
names, or it is removed (`Store.Answers`). A request succeeds exactly if what it leads to allows it
(`Store.Carried`). An answer is given as long as the numbers that it needs have 64 bits
(`Store.Fits`).

`Store.Keeps` is what follows for any number of requests: the collections that no request is about
keep their rows, and the rows that no request is about are still there, in their order.
`Store.conserves_exchanges` says all of this of every run.
-/

namespace RestQuery.Store

variable {s : Settings} {st : Store} {collections before after : KeyMap (List Json)}
  {request : Request} {path id : String} {rows rows' front back : List Json} {row : Json}

/-! ## The change of one collection -/

/-- Whether collections differ from others only in the rows under one path. -/
structure Rewrites (before after : KeyMap (List Json)) (path : String) (rows rows' : List Json) :
    Prop where
  held : KeyMap.get? before path = some rows
  holds : KeyMap.get? after path = some rows'
  others : ∀ other, other ≠ path → KeyMap.get? after other = KeyMap.get? before other

/-- Rows put in place of others are the only change. -/
theorem rewrites_insert (hrows : KeyMap.get? collections path = some rows) (rows' : List Json) :
    Rewrites collections (KeyMap.insert collections path rows') path rows rows' where
  held := hrows
  holds := by rw [KeyMap.get?_insert, if_pos rfl]
  others other hne := by rw [KeyMap.get?_insert, if_neg hne.symm]

/-- The names of the members that a body is to change. -/
def changedNames : Option Json → List String
  | some (.object changes) => KeyMap.keys changes
  | _ => []

/-- A member that the body does not name stays as it was. -/
theorem member?_changedRow (row : Json) {body : Option Json} {name : String}
    (h : name ∉ changedNames body) : (changedRow row body).member? name = row.member? name := by
  unfold changedRow
  split
  · rename_i members changes
    have hnone : KeyMap.get? (KeyMap.ofEntries changes) name = none := by
      rw [KeyMap.get?_eq_none_iff]
      intro hmem
      obtain ⟨entry, hentry, rfl⟩ := List.mem_map.mp hmem
      exact h (List.mem_map_of_mem (KeyMap.mem_of_mem_ofEntries hentry))
    rw [Json.member?, Json.member?, KeyMap.get?_overlay_entries, hnone, Option.none_or]
  · rfl

/-! ## One request -/

/-- Whether the collection under the path of a request has one more row, behind the others. -/
def Adds (before : KeyMap (List Json)) (request : Request) (after : KeyMap (List Json)) : Prop :=
  ∃ rows, Rewrites before after (collectionPath request.path) rows
    (rows ++ [newRow rows request.body])

/-- Whether the first row that a request addresses is changed, and only in what the body names. -/
def Changes (before : KeyMap (List Json)) (request : Request) (after : KeyMap (List Json)) :
    Prop :=
  ∃ path id rows front row back,
    Addresses before request path id rows ∧ FirstWithId id rows front row back ∧
      Rewrites before after path rows (front ++ changedRow row request.body :: back) ∧
      ∀ name, name ∉ changedNames request.body →
        (changedRow row request.body).member? name = row.member? name

/-- Whether the first row that a request addresses is removed. -/
def Removes (before : KeyMap (List Json)) (request : Request) (after : KeyMap (List Json)) :
    Prop :=
  ∃ path id rows front row back,
    Addresses before request path id rows ∧ FirstWithId id rows front row back ∧
      Rewrites before after path rows (front ++ back)

/-- Whether a request is to change or to remove a row by its `id`. -/
def IsRowWrite (request : Request) : Prop := request.method = .put ∨ request.method = .delete

instance : DecidablePred IsRowWrite := fun _ => inferInstanceAs (Decidable (_ ∨ _))

/-- Whether a request is one that what it leads to allows: a collection is read or added to, and a
row is read, changed or removed. -/
inductive Carried (collections : KeyMap (List Json)) (request : Request) : Prop where
  | collection {rows : List Json}
    (hrows : KeyMap.get? collections (collectionPath request.path) = some rows)
    (hmethod : ¬ IsRowWrite request)
  | row {path id : String} {rows front : List Json} {row : Json} {back : List Json}
    (haddresses : Addresses collections request path id rows)
    (hfirst : FirstWithId id rows front row back) (hmethod : request.method ≠ .post)

/-- Whether collections change by no more than the row that a request is about: not at all if it is
refused or only reads, and else as its method says. -/
structure Answers (before : KeyMap (List Json)) (request : Request) (response : Response)
    (after : KeyMap (List Json)) : Prop where
  refused : 400 ≤ response.status → after = before
  read : request.method = .get ∨ request.method = .head → after = before
  post : response.status < 400 → request.method = .post →
    response.status = 201 ∧ Adds before request after
  put : response.status < 400 → request.method = .put →
    response.status = 200 ∧ Changes before request after
  delete : response.status < 400 → request.method = .delete →
    response.status = 204 ∧ Removes before request after

/-- A request that only reads, or is refused, leaves the collections. -/
theorem answers_of_unchanged {response : Response}
    (h : (request.method = .get ∨ request.method = .head) ∨ 400 ≤ response.status) :
    Answers collections request response collections := by
  have hrefused : ∀ {method : Method}, method ≠ .get → method ≠ .head →
      response.status < 400 → request.method ≠ method := by
    rintro method hget hhead hstatus rfl
    rcases h with (h | h) | h
    · exact hget h
    · exact hhead h
    · omega
  exact {
    refused := fun _ => rfl
    read := fun _ => rfl
    post := fun hstatus h => absurd h (hrefused (by decide) (by decide) hstatus)
    put := fun hstatus h => absurd h (hrefused (by decide) (by decide) hstatus)
    delete := fun hstatus h => absurd h (hrefused (by decide) (by decide) hstatus) }

/-- A request for a collection reads it or adds a row. -/
theorem answers_onCollection
    (hrows : KeyMap.get? st.collections (collectionPath request.path) = some rows) :
    Answers st.collections request
      (onCollection s st (collectionPath request.path) rows request).1
      (onCollection s st (collectionPath request.path) rows request).2.collections := by
  cases hmethod : request.method with
  | post =>
    simp only [onCollection, hmethod]
    exact {
      refused := by simp
      read := by simp [hmethod]
      post := fun _ _ => ⟨rfl, rows, rewrites_insert hrows _⟩
      put := by simp [hmethod]
      delete := by simp [hmethod] }
  | get | head =>
    simp only [onCollection, hmethod]
    exact answers_of_unchanged (.inl (by simp [hmethod]))
  | put | delete =>
    simp only [onCollection, hmethod]
    exact answers_of_unchanged (.inr (by simp [notAllowed, Response.withHeader]))

/-- A request for a row reads it, changes it or removes it. -/
theorem answers_onItem (haddresses : Addresses st.collections request path id rows)
    (hfirst : FirstWithId id rows front row back) :
    Answers st.collections request (onItem st path rows front.length row request).1
      (onItem st path rows front.length row request).2.collections := by
  cases hmethod : request.method with
  | put =>
    simp only [onItem, hmethod, hfirst.set]
    exact {
      refused := by simp
      read := by simp [hmethod]
      post := by simp [hmethod]
      put := fun _ _ => ⟨rfl, path, id, rows, front, row, back, haddresses, hfirst,
        rewrites_insert haddresses.served _, fun _ => member?_changedRow row⟩
      delete := by simp [hmethod] }
  | delete =>
    simp only [onItem, hmethod, hfirst.eraseIdx]
    exact {
      refused := by simp
      read := by simp [hmethod]
      post := by simp [hmethod]
      put := by simp [hmethod]
      delete := fun _ _ => ⟨rfl, path, id, rows, front, row, back, haddresses, hfirst,
        rewrites_insert haddresses.served _⟩ }
  | get | head =>
    simp only [onItem, hmethod]
    exact answers_of_unchanged (.inl (by simp [hmethod]))
  | post =>
    simp only [onItem, hmethod]
    exact answers_of_unchanged (.inr (by simp [notAllowed, Response.withHeader]))

/-- The collections change by no more than the row that a request is about. -/
theorem answers_handle (s : Settings) (st : Store) (request : Request) :
    Answers st.collections request (handle s st request).1
      (handle s st request).2.collections := by
  have hhandled := handled s st request
  generalize handle s st request = outcome at hhandled ⊢
  cases hhandled with
  | collection hrows => exact answers_onCollection hrows
  | row haddresses hfirst => exact answers_onItem haddresses hfirst
  | missing => exact answers_of_unchanged (.inr (show 400 ≤ 404 by decide))

/-- A store succeeds with the requests that are allowed, and with no others. -/
theorem status_handle_lt_iff (s : Settings) (st : Store) (request : Request) :
    (handle s st request).1.status < 400 ↔ Carried st.collections request := by
  constructor
  · intro hstatus
    have hhandled := handled s st request
    generalize handle s st request = outcome at hhandled hstatus
    cases hhandled with
    | collection hrows =>
      refine .collection hrows fun hwrite => ?_
      rcases hwrite with hmethod | hmethod <;>
        simp [onCollection, hmethod, notAllowed, Response.withHeader] at hstatus
    | row haddresses hfirst =>
      refine .row haddresses hfirst fun hmethod => ?_
      simp [onItem, hmethod, notAllowed, Response.withHeader] at hstatus
    | missing => exact absurd hstatus (show ¬ 404 < 400 by decide)
  · rintro (⟨hrows, hmethod⟩ | ⟨haddresses, hfirst, hmethod⟩)
    · rw [handle_collection hrows]
      cases hcase : request.method with
      | put => exact absurd (.inl hcase) hmethod
      | delete => exact absurd (.inr hcase) hmethod
      | _ => simp [onCollection, hcase, list, Response.withHeader]
    · rw [haddresses.handle_first hfirst]
      cases hcase : request.method with
      | post => exact absurd hcase hmethod
      | _ => simp [onItem, hcase]

/-! ## What some requests are not about -/

/-- Whether a request is about the rows under a path: one is to be added, changed or removed. -/
def Touches (request : Request) (path : String) : Prop :=
  request.method = .post ∧ collectionPath request.path = path ∨
    IsRowWrite request ∧ (addressed? request).any (·.1 == path)

instance (request : Request) (path : String) : Decidable (Touches request path) :=
  inferInstanceAs (Decidable (_ ∨ _))

/-- Whether a request is to change or to remove a row of the collection under a path. -/
def AsksFor (request : Request) (path : String) (row : Json) : Prop :=
  IsRowWrite request ∧ (addressed? request).any fun told => told.1 == path && hasId told.2 row

instance (request : Request) (path : String) (row : Json) : Decidable (AsksFor request path row) :=
  inferInstanceAs (Decidable (_ ∧ _))

/-- Whether collections hold all of others that some requests are not about. -/
structure Keeps (requests : List Request) (before after : KeyMap (List Json)) : Prop where
  served : ∀ path, (KeyMap.get? after path).isSome = (KeyMap.get? before path).isSome
  untouched : ∀ path, (∀ request ∈ requests, ¬ Touches request path) →
    KeyMap.get? after path = KeyMap.get? before path
  /-- The rows that no request asks for are still there, in their order. -/
  rows : ∀ path rows rows', KeyMap.get? before path = some rows →
    KeyMap.get? after path = some rows' → ∀ kept : List Json, kept.Sublist rows →
      (∀ row ∈ kept, ∀ request ∈ requests, ¬ AsksFor request path row) → kept.Sublist rows'

namespace Keeps

theorem refl (requests : List Request) (collections : KeyMap (List Json)) :
    Keeps requests collections collections where
  served _ := rfl
  untouched _ _ := rfl
  rows path rows rows' hrows hrows' kept hkept _ := by
    obtain rfl : rows = rows' := Option.some.inj (hrows.symm.trans hrows')
    exact hkept

/-- What is kept by some requests and by others after them is kept by all. -/
theorem append {requests later : List Request} {middle : KeyMap (List Json)}
    (h : Keeps requests before middle) (hlater : Keeps later middle after) :
    Keeps (requests ++ later) before after where
  served path := (hlater.served path).trans (h.served path)
  untouched path hnone := by
    rw [hlater.untouched path fun request hmem => hnone request (List.mem_append_right _ hmem),
      h.untouched path fun request hmem => hnone request (List.mem_append_left _ hmem)]
  rows path rows rows' hrows hrows' kept hkept hnone := by
    obtain ⟨between, hbetween⟩ : ∃ between, KeyMap.get? middle path = some between := by
      rw [← Option.isSome_iff_exists, h.served path, hrows, Option.isSome_some]
    have hmiddle := h.rows path rows between hrows hbetween kept hkept
      fun row hrow request hmem => hnone row hrow request (List.mem_append_left _ hmem)
    exact hlater.rows path between rows' hbetween hrows' kept hmiddle
      fun row hrow request hmem => hnone row hrow request (List.mem_append_right _ hmem)

/-- A change under one path that leaves the rows that the request does not ask for keeps all that
it is not about. -/
theorem of_rewrites (h : Rewrites before after path rows rows') (htouches : Touches request path)
    (hkept : ∀ kept : List Json, kept.Sublist rows →
      (∀ row ∈ kept, ¬ AsksFor request path row) → kept.Sublist rows') :
    Keeps [request] before after where
  served other := by
    by_cases hother : other = path
    · rw [hother, h.holds, h.held]
      rfl
    · rw [h.others other hother]
  untouched other hnone := by
    refine h.others other ?_
    rintro rfl
    exact hnone request (List.mem_singleton_self _) htouches
  rows other rowsBefore rowsAfter hbefore hafter kept hsublist hnone := by
    by_cases hother : other = path
    · subst hother
      obtain rfl : rows = rowsBefore := Option.some.inj (h.held.symm.trans hbefore)
      obtain rfl : rows' = rowsAfter := Option.some.inj (h.holds.symm.trans hafter)
      exact hkept kept hsublist
        fun row hrow => hnone row hrow request (List.mem_singleton_self _)
    · rw [h.others other hother] at hafter
      obtain rfl : rowsBefore = rowsAfter := Option.some.inj (hbefore.symm.trans hafter)
      exact hsublist

end Keeps

/-- A write that leads to the rows under a path is about them, and about those with the `id`. -/
theorem Addresses.touches (h : Addresses collections request path id rows)
    (hwrite : IsRowWrite request) :
    Touches request path ∧ ∀ row, ¬ AsksFor request path row → hasId id row = false := by
  refine ⟨.inr ⟨hwrite, by simp [h.told]⟩, fun row hnone => Bool.eq_false_iff.mpr fun hid => ?_⟩
  exact hnone ⟨hwrite, by simp [h.told, hid]⟩

/-- Rows without the first of an `id` are still there when it is gone. -/
theorem FirstWithId.sublist (h : FirstWithId id rows front row back) {kept : List Json}
    (hkept : kept.Sublist rows) (hnone : ∀ row ∈ kept, hasId id row = false) :
    kept.Sublist (front ++ back) := by
  rw [h.split] at hkept
  obtain ⟨kept₁, kept₂, rfl, hfront, hback⟩ := List.sublist_append_iff.mp hkept
  refine hfront.append ?_
  -- Of the rows behind, none can be the first with the `id`, which has it.
  rcases List.sublist_cons_iff.mp hback with hback | ⟨rest, rfl, -⟩
  · exact hback
  · have hrow := hnone row (List.mem_append_right _ List.mem_cons_self)
    rw [h.has_id] at hrow
    cases hrow

/-- A request keeps what it is not about. -/
theorem Answers.keeps {response : Response} (h : Answers before request response after) :
    Keeps [request] before after := by
  rcases Nat.lt_or_ge response.status 400 with hstatus | hstatus
  · cases hmethod : request.method with
    | get => exact h.read (.inl hmethod) ▸ Keeps.refl _ _
    | head => exact h.read (.inr hmethod) ▸ Keeps.refl _ _
    | post =>
      obtain ⟨-, rows, hrewrites⟩ := h.post hstatus hmethod
      exact .of_rewrites hrewrites (.inl ⟨hmethod, rfl⟩)
        fun kept hkept _ => hkept.trans (List.sublist_append_left _ _)
    | put =>
      obtain ⟨-, path, id, rows, front, row, back, haddresses, hfirst, hrewrites, -⟩ :=
        h.put hstatus hmethod
      obtain ⟨htouches, hothers⟩ := haddresses.touches (.inl hmethod)
      refine .of_rewrites hrewrites htouches fun kept hkept hnone => ?_
      have hleft := hfirst.sublist hkept fun row hrow => hothers row (hnone row hrow)
      exact hleft.trans ((List.Sublist.refl front).append (List.sublist_cons_self _ _))
    | delete =>
      obtain ⟨-, path, id, rows, front, row, back, haddresses, hfirst, hrewrites⟩ :=
        h.delete hstatus hmethod
      obtain ⟨htouches, hothers⟩ := haddresses.touches (.inr hmethod)
      exact .of_rewrites hrewrites htouches
        fun kept hkept hnone => hfirst.sublist hkept fun row hrow => hothers row (hnone row hrow)
  · exact h.refused hstatus ▸ Keeps.refl _ _

/-! ## One exchange -/

/-- Whether the numbers that a request for a collection needs have 64 bits: where the page that it
asks for ends, and the number of a row that it adds without one. -/
structure Fits (s : Settings) (collections : KeyMap (List Json)) (request : Request) : Prop where
  page : request.method = .get ∨ request.method = .head → ∀ rows,
    KeyMap.get? collections (collectionPath request.path) = some rows →
      pageFor request * s.pageSizeFor request ≤ Text.maxWord64
  number : request.method = .post → ∀ rows,
    KeyMap.get? collections (collectionPath request.path) = some rows → ∀ members,
      request.body.getD (.object []) = .object members →
      KeyMap.contains members "id" = false → greatestId rows < Text.maxWord64

/-- A request that was sent, with the reply and the store before and after it. -/
structure Exchange where
  before : Store
  request : Request
  reply : Except Error Response
  after : Store

/-- The exchange of a request with a store. -/
def exchange (s : Settings) (request : Request) (st : Store) : Exchange :=
  ⟨st, request, (send s request st).1, (send s request st).2⟩

/-- Whether an exchange leaves the store as it was, but for the request in the log, and either the
reply that was queued first, which was given, or what the request is about. -/
structure Exchange.Conserves (s : Settings) (e : Exchange) : Prop where
  logged : e.after.requests = e.before.requests ++ [e.request]
  queued : e.after.queued = e.before.queued.tail
  scripted : ∀ entry ∈ e.before.queued.head?,
    e.reply = entry.mapError .transport ∧ e.after.collections = e.before.collections
  answered : e.before.queued = [] → Fits s e.before.collections e.request →
    ∃ response, e.reply = .ok response ∧
      (response.status < 400 ↔ Carried e.before.collections e.request) ∧
      Answers e.before.collections e.request response e.after.collections
  /-- Whatever numbers it needs, the request leaves what it is not about. -/
  kept : Keeps [e.request] e.before.collections e.after.collections

/-- One request leaves what it is not about. -/
theorem conserves_exchange (s : Settings) (request : Request) (st : Store) :
    (exchange s request st).Conserves s := by
  cases hqueued : st.queued with
  | cons entry rest =>
    have hsend := send_of_queued_cons hqueued s request
    exact {
      logged := by rw [exchange, hsend]; rfl
      queued := by rw [exchange, hsend, hqueued]; rfl
      scripted := by
        intro first hfirst
        rw [exchange, hqueued] at hfirst
        obtain rfl : entry = first := Option.some.inj hfirst
        rw [exchange, hsend]
        exact ⟨rfl, rfl⟩
      answered := fun hnil => absurd (hqueued.symm.trans hnil) (List.cons_ne_nil _ _)
      kept := by rw [exchange, hsend]; exact .refl _ _ }
  | nil =>
    have hsend := send_of_queued_nil hqueued s request
    exact {
      logged := by rw [exchange, hsend, handle_eq]; rfl
      queued := by rw [exchange, hsend, handle_eq, hqueued]; exact hqueued
      scripted := by
        intro first hfirst
        rw [exchange, hqueued] at hfirst
        cases hfirst
      answered := by
        intro _ _
        rw [exchange, hsend]
        exact ⟨_, rfl, status_handle_lt_iff s (st.seen request) request,
          answers_handle s (st.seen request) request⟩
      kept := by
        rw [exchange, hsend]
        exact (answers_handle s (st.seen request) request).keeps }

/-! ## Any number of requests -/

/-- The exchanges of a run, in order. -/
def exchanges (s : Settings) : List Request → Store → List Exchange
  | [], _ => []
  | request :: rest, st => exchange s request st :: exchanges s rest (send s request st).2

/-- The store after a run. -/
def sendAll (s : Settings) (requests : List Request) (st : Store) : Store :=
  requests.foldl (fun st request => (send s request st).2) st

/-- A run is about nothing but what its requests are about that find no queued reply. -/
theorem keeps_sendAll (s : Settings) (requests : List Request) (st : Store) :
    (sendAll s requests st).requests = st.requests ++ requests ∧
      (sendAll s requests st).queued = st.queued.drop requests.length ∧
      Keeps (requests.drop st.queued.length) st.collections
        (sendAll s requests st).collections := by
  -- Each request is sent to the store that the one before it left, so the induction is over any.
  induction requests generalizing st with
  | nil => exact ⟨(List.append_nil _).symm, rfl, .refl _ _⟩
  | cons request rest ih =>
    have hstep := conserves_exchange s request st
    obtain ⟨hlogged, hqueued, hkeeps⟩ := ih (send s request st).2
    have hlog : (send s request st).2.requests = st.requests ++ [request] := hstep.logged
    have htail : (send s request st).2.queued = st.queued.tail := hstep.queued
    refine ⟨?_, ?_, ?_⟩
    · show (sendAll s rest (send s request st).2).requests = _
      rw [hlogged, hlog, List.append_assoc, List.singleton_append]
    · show (sendAll s rest (send s request st).2).queued = _
      rw [hqueued, htail, List.length_cons, List.drop_tail]
    · show Keeps _ _ (sendAll s rest (send s request st).2).collections
      rw [htail] at hkeeps
      cases hreplies : st.queued with
      | nil =>
        rw [hreplies] at hkeeps
        exact hstep.kept.append hkeeps
      | cons entry replies =>
        have hsame : (send s request st).2.collections = st.collections :=
          (hstep.scripted entry (by rw [exchange, hreplies]; rfl)).2
        rw [hreplies, hsame] at hkeeps
        exact hkeeps

/-- Every request of a run is exchanged in turn. -/
theorem map_request_exchanges (s : Settings) (requests : List Request) (st : Store) :
    (exchanges s requests st).map Exchange.request = requests := by
  induction requests generalizing st with
  | nil => rfl
  | cons request rest ih => rw [exchanges, List.map_cons, ih]; rfl

/-- The queued replies are given first, in their order. -/
theorem take_map_reply_exchanges (s : Settings) (requests : List Request) (st : Store) :
    ((exchanges s requests st).map Exchange.reply).take st.queued.length =
      (st.queued.take requests.length).map (Except.mapError .transport) := by
  -- Every exchange takes one of the queued replies, as long as there are any.
  induction requests generalizing st with
  | nil => rw [exchanges, List.map_nil, List.take_nil, List.length_nil, List.take_zero,
      List.map_nil]
  | cons request rest ih =>
    cases hqueued : st.queued with
    | nil => rw [List.length_nil, List.take_zero, List.take_nil, List.map_nil]
    | cons entry replies =>
      have hsend := send_of_queued_cons hqueued s request
      have hleft : (send s request st).2.queued = replies := by rw [hsend]
      have hreply : (exchange s request st).reply = entry.mapError .transport := by
        rw [exchange, hsend]
      have hrest := ih (send s request st).2
      rw [hleft] at hrest
      rw [exchanges, List.map_cons, List.length_cons, List.take_succ_cons, List.length_cons,
        List.take_succ_cons, List.map_cons, hreply, hrest]

/-- Every exchange of a run leaves what its request is not about. -/
theorem conserves_of_mem_exchanges (s : Settings) (requests : List Request) (st : Store) :
    ∀ e ∈ exchanges s requests st, e.Conserves s := by
  induction requests generalizing st with
  | nil => exact fun e he => absurd he List.not_mem_nil
  | cons request rest ih =>
    intro e he
    rcases List.mem_cons.mp he with rfl | hrest
    · exact conserves_exchange s request st
    · exact ih _ e hrest

/-- A store takes the requests of a run one by one, logs them and gives the queued replies first;
each request leaves what it is not about, and so does the run. -/
theorem conserves_exchanges (s : Settings) (requests : List Request) (st : Store) :
    (exchanges s requests st).map Exchange.request = requests ∧
      (∀ e ∈ exchanges s requests st, e.Conserves s) ∧
      ((exchanges s requests st).map Exchange.reply).take st.queued.length =
        (st.queued.take requests.length).map (Except.mapError .transport) ∧
      (sendAll s requests st).requests = st.requests ++ requests ∧
      (sendAll s requests st).queued = st.queued.drop requests.length ∧
      Keeps (requests.drop st.queued.length) st.collections
        (sendAll s requests st).collections :=
  ⟨map_request_exchanges s requests st, conserves_of_mem_exchanges s requests st,
    take_map_reply_exchanges s requests st, keeps_sendAll s requests st⟩

/-- One reply is queued, so of four requests only the first leaves the collections: a song is added,
one changed and one removed, and the song between them stays. -/
theorem conserves_exchanges_songs :
    let s : Settings := {}
    let song (id : Nat) (title : String) : Json :=
      .object [("id", Json.nat id), ("title", .text title)]
    let st : Store :=
      { collections := [("poems", [song 1 "z"]), ("songs", [song 1 "a", song 2 "b", song 3 "c"])]
        queued := [.error "closed"] }
    let body : Option Json := some (.object [("title", .text "d")])
    let requests : List Request :=
      [{ method := .delete, path := "songs/2" },
        { method := .post, path := "songs", body := body },
        { method := .put, path := "songs/1", body := body },
        { method := .delete, path := "songs/3" }]
    (exchanges s requests st).map Exchange.request = requests ∧
      (exchanges s requests st).map (fun e => e.reply.toOption.map (·.status)) =
        [none, some 201, some 200, some 204] ∧
      (sendAll s requests st).queued = [] ∧
      KeyMap.get? (sendAll s requests st).collections "poems" = some [song 1 "z"] ∧
      ∀ rows, KeyMap.get? (sendAll s requests st).collections "songs" = some rows →
        [song 2 "b"].Sublist rows := by
  intro s song st body requests
  obtain ⟨hrequests, -, -, -, hqueued, hkeeps⟩ := conserves_exchanges s requests st
  have hothers : ∀ request ∈ requests.drop 1, ¬ Touches request "poems" := by decide +kernel
  have hrow : ∀ row ∈ [song 2 "b"], ∀ request ∈ requests.drop 1,
      ¬ AsksFor request "songs" row := by decide +kernel
  refine ⟨hrequests, by decide +kernel, hqueued, hkeeps.untouched "poems" hothers,
    fun rows hrows => ?_⟩
  exact hkeeps.rows "songs" _ rows rfl hrows _ (by decide +kernel) hrow

end RestQuery.Store
