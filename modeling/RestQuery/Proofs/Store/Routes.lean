import RestQuery.Store

/-!
# Where a store serves a request

A request is served by the collection under its path. If there is none, its path is cut at the last
slash: before it stands the path of a collection, behind it the text of an `id`, and the request is
served by the first row with this text (`Store.Addresses`, `Store.FirstWithId`). Any other request
is answered by a 404. `Store.handled` lists these three ways; what is proved about answers and about
the rows that they leave is a case for each of them.
-/

namespace RestQuery.Store

variable {s : Settings} {st : Store} {collections : KeyMap (List Json)} {request : Request}
  {path id : String} {rows front back : List Json} {row : Json}

/-- The first row with an `id` of a text, and the rows before and behind it. -/
structure FirstWithId (id : String) (rows front : List Json) (row : Json) (back : List Json) :
    Prop where
  split : rows = front ++ row :: back
  has_id : hasId id row = true
  before : ∀ earlier ∈ front, hasId id earlier = false

/-- Among some rows, there is a first one with an `id`, unless there is none at all. -/
theorem exists_firstWithId (id : String) (rows : List Json) :
    (∀ row ∈ rows, hasId id row = false) ∨
      ∃ front row back, FirstWithId id rows front row back := by
  cases hfind : rows.find? (hasId id) with
  | none =>
    refine .inl fun row hrow => ?_
    simpa using List.find?_eq_none.mp hfind row hrow
  | some row =>
    obtain ⟨hrow, front, back, hsplit, hbefore⟩ := List.find?_eq_some_iff_append.mp hfind
    exact .inr ⟨front, row, back, hsplit, hrow, fun earlier h => by simpa using hbefore earlier h⟩

namespace FirstWithId

/-- The first row with an `id` stands behind those without it. -/
theorem findIdx? (h : FirstWithId id rows front row back) :
    rows.findIdx? (hasId id) = some front.length := by
  have hnone : front.findIdx? (hasId id) = none := List.findIdx?_eq_none_iff.mpr h.before
  rw [h.split, List.findIdx?_append, hnone, Option.none_or, List.findIdx?_cons, if_pos h.has_id,
    Option.map_some, Nat.zero_add]

theorem getElem? (h : FirstWithId id rows front row back) : rows[front.length]? = some row := by
  rw [h.split, List.getElem?_append_right (Nat.le_refl _), Nat.sub_self, List.getElem?_cons_zero]

theorem find? (h : FirstWithId id rows front row back) : rows.find? (hasId id) = some row :=
  List.find?_eq_some_iff_append.mpr
    ⟨h.has_id, front, back, h.split, fun earlier hearlier => by simp [h.before earlier hearlier]⟩

/-- Another row in its place leaves the others where they are. -/
theorem set (h : FirstWithId id rows front row back) (row' : Json) :
    rows.set front.length row' = front ++ row' :: back := by
  rw [h.split, List.set_append_right _ _ (Nat.le_refl _), Nat.sub_self, List.set_cons_zero]

/-- Without it, the others follow each other. -/
theorem eraseIdx (h : FirstWithId id rows front row back) :
    rows.eraseIdx front.length = front ++ back := by
  rw [h.split, List.eraseIdx_append_of_length_le (Nat.le_refl _), Nat.sub_self,
    List.eraseIdx_cons_zero]

end FirstWithId

/-- The store with one more request in its log. -/
def seen (st : Store) (request : Request) : Store :=
  { st with requests := st.requests ++ [request] }

/-- Where no reply is queued, the collections answer. -/
theorem send_of_queued_nil (hqueued : st.queued = []) (s : Settings) (request : Request) :
    send s request st =
      (.ok (handle s (st.seen request) request).1, (handle s (st.seen request) request).2) := by
  simp only [send, hqueued, seen]

/-- A queued reply is given whatever the collections are, and they stay. -/
theorem send_of_queued_cons {entry : Except String Response}
    {rest : List (Except String Response)} (hqueued : st.queued = entry :: rest) (s : Settings)
    (request : Request) :
    send s request st = (entry.mapError .transport, { st.seen request with queued := rest }) := by
  cases entry <;> simp only [send, hqueued, seen] <;> rfl

/-- The path of a collection and the text of an `id` that a request to a row tells: what stands on
the two sides of the last slash. -/
def addressed? (request : Request) : Option (String × String) :=
  (Text.cutLast '/' (collectionPath request.path)).map fun (path, segment) =>
    (path, Text.percentDecode segment)

/-- Whether a request leads to some rows for the one with an `id`: no collection is served under its
own path. -/
structure Addresses (collections : KeyMap (List Json)) (request : Request) (path id : String)
    (rows : List Json) : Prop where
  free : KeyMap.get? collections (collectionPath request.path) = none
  told : addressed? request = some (path, id)
  served : KeyMap.get? collections path = some rows

/-- A collection serves the requests to its path. -/
theorem handle_collection
    (hrows : KeyMap.get? st.collections (collectionPath request.path) = some rows) :
    handle s st request = onCollection s st (collectionPath request.path) rows request := by
  simp only [handle, hrows]

/-- Without a collection under its path, a request is served by a row that it addresses. -/
theorem handle_of_free (hfree : KeyMap.get? st.collections (collectionPath request.path) = none) :
    handle s st request =
      match (addressed? request).bind fun (path, id) =>
        (KeyMap.get? st.collections path).bind fun rows =>
          (rows.findIdx? (hasId id)).bind fun position =>
            (rows[position]?).bind fun row => some (path, rows, position, row) with
      | some (path, rows, position, row) => onItem st path rows position row request
      | none => ({ status := 404 }, st) := by
  simp only [handle, hfree, addressed?]
  cases Text.cutLast '/' (collectionPath request.path) <;> rfl

namespace Addresses

/-- The row that is looked for by its `id` serves the request. -/
theorem handle_first (h : Addresses st.collections request path id rows)
    (hfirst : FirstWithId id rows front row back) :
    handle s st request = onItem st path rows front.length row request := by
  simp only [handle_of_free h.free, h.told, h.served, hfirst.findIdx?, hfirst.getElem?,
    Option.bind_some]

/-- No row serves the request if none has the `id`. -/
theorem handle_none (h : Addresses st.collections request path id rows)
    (hnone : ∀ row ∈ rows, hasId id row = false) :
    handle s st request = ({ status := 404 }, st) := by
  simp only [handle_of_free h.free, h.told, h.served, List.findIdx?_eq_none_iff.mpr hnone,
    Option.bind_some, Option.bind_none]

end Addresses

/-- A request that leads to no collection is served by none. -/
theorem handle_nowhere (hfree : KeyMap.get? st.collections (collectionPath request.path) = none)
    (hnone : ∀ path id rows, ¬ Addresses st.collections request path id rows) :
    handle s st request = ({ status := 404 }, st) := by
  rw [handle_of_free hfree]
  cases htold : addressed? request with
  | none => rfl
  | some target =>
    obtain ⟨path, id⟩ := target
    cases hrows : KeyMap.get? st.collections path with
    | none => simp only [Option.bind_some, hrows, Option.bind_none]
    | some rows => exact absurd ⟨hfree, htold, hrows⟩ (hnone path id rows)

/-- The ways in which a request without a queued reply is served. -/
inductive Handled (s : Settings) (st : Store) (request : Request) : Response × Store → Prop where
  | collection {rows : List Json}
    (hrows : KeyMap.get? st.collections (collectionPath request.path) = some rows) :
    Handled s st request (onCollection s st (collectionPath request.path) rows request)
  | row {path id : String} {rows front : List Json} {row : Json} {back : List Json}
    (haddresses : Addresses st.collections request path id rows)
    (hfirst : FirstWithId id rows front row back) :
    Handled s st request (onItem st path rows front.length row request)
  | missing : Handled s st request ({ status := 404 }, st)

/-- Every request is served in one of these ways. -/
theorem handled (s : Settings) (st : Store) (request : Request) :
    Handled s st request (handle s st request) := by
  cases hrows : KeyMap.get? st.collections (collectionPath request.path) with
  | some rows => exact handle_collection hrows ▸ .collection hrows
  | none =>
    by_cases hleads : ∃ path id rows, Addresses st.collections request path id rows
    · obtain ⟨path, id, rows, haddresses⟩ := hleads
      rcases exists_firstWithId id rows with hnone | ⟨front, row, back, hfirst⟩
      · exact haddresses.handle_none hnone ▸ .missing
      · exact haddresses.handle_first hfirst ▸ .row haddresses hfirst
    · have hnone : ∀ path id rows, ¬ Addresses st.collections request path id rows :=
        fun path id rows h => hleads ⟨path, id, rows, h⟩
      exact handle_nowhere hrows hnone ▸ .missing

end RestQuery.Store
