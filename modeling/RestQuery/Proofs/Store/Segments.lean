import RestQuery.Proofs.Connection.Item

/-!
# Rows are asked for by any key

A key travels as the last segment of a path, with every byte escaped that could end the segment or
be taken for an escape. A store takes it from the path again and reads it as it was, so requests
below the path of a collection are served by the first row whose `id` has this text, whatever the
text is: `Store.segment_serves` puts the way there and the way back together. `Store.ServesRow` and
`Store.ServesNone` are the two answers that there are, with what they leave in the store.
-/

namespace RestQuery.Store

open Text

variable {s : Settings} {st : Store} {request : Request} {path key : String}
  {rows front back : List Json} {row : Json}

/-- The store with other rows in place of those under a path. -/
def withRows (st : Store) (path : String) (rows : List Json) : Store :=
  { st with collections := KeyMap.insert st.collections path rows }

/-- Whether the requests below a path are about one row of a collection: it is read, changed or
removed, and nothing else is. -/
structure ServesRow (s : Settings) (st : Store) (target path : String) (front : List Json)
    (row : Json) (back : List Json) : Prop where
  get : ∀ request : Request, request.path = target → request.method = .get →
    send s request st =
      (.ok { status := 200, body := project (request.queryValue? "fields") row }, st.seen request)
  put : ∀ request : Request, request.path = target → request.method = .put →
    send s request st = (.ok { status := 200, body := changedRow row request.body },
      (st.seen request).withRows path (front ++ changedRow row request.body :: back))
  delete : ∀ request : Request, request.path = target → request.method = .delete →
    send s request st = (.ok { status := 204 }, (st.seen request).withRows path (front ++ back))

/-- Whether the requests to a path are refused because there is nothing that they are about. -/
def ServesNone (s : Settings) (st : Store) (target : String) : Prop :=
  ∀ request : Request, request.path = target → send s request st =
    (.ok { status := 404 }, st.seen request)

/-- The row that some requests address serves them. -/
theorem servesRow_of_addresses {target : String} (hqueued : st.queued = [])
    (haddresses : ∀ request : Request, request.path = target →
      Addresses st.collections request path key rows)
    (hfirst : FirstWithId key rows front row back) :
    ServesRow s st target path front row back := by
  have hserved : ∀ request : Request, request.path = target → handle s (st.seen request) request =
      onItem (st.seen request) path rows front.length row request :=
    fun request hrequest => Addresses.handle_first (haddresses request hrequest) hfirst
  refine ⟨fun request hrequest hmethod => ?_, fun request hrequest hmethod => ?_,
    fun request hrequest hmethod => ?_⟩
  · simp only [send_of_queued_nil hqueued, hserved request hrequest, onItem, hmethod]
  · simp only [send_of_queued_nil hqueued, hserved request hrequest, onItem, hmethod, hfirst.set,
      withRows]
  · simp only [send_of_queued_nil hqueued, hserved request hrequest, onItem, hmethod,
      hfirst.eraseIdx, withRows]

/-- Where no row has the `id`, the requests that address it are refused. -/
theorem servesNone_of_addresses {target : String} (hqueued : st.queued = [])
    (haddresses : ∀ request : Request, request.path = target →
      Addresses st.collections request path key rows)
    (hnone : ∀ row ∈ rows, hasId key row = false) : ServesNone s st target := by
  intro request hrequest
  have hserved : handle s (st.seen request) request = ({ status := 404 }, st.seen request) :=
    Addresses.handle_none (haddresses request hrequest) hnone
  rw [send_of_queued_nil hqueued, hserved]

/-- A path without slashes at its ends is the one that its collection is served under, and ends in
no slash. -/
theorem unslashed_and_collectionPath (hne : path ≠ "") (hstart : path.toList.head? ≠ some '/')
    (hending : path.toList.getLast? ≠ some '/') : Unslashed path ∧ collectionPath path = path := by
  have hchars : path.toList ≠ [] := by simpa using hne
  have hunslashed : Unslashed path := by
    rw [List.getLast?_eq_some_getLast hchars] at hending
    rw [Unslashed, List.getLast?_eq_some_getLast hchars, Option.any_some, bne_iff_ne]
    exact fun heq => hending (congrArg some heq)
  refine ⟨hunslashed, ?_⟩
  rw [(collectionPath_of_unslashed hunslashed).2]
  obtain ⟨first, rest, hfirst⟩ := List.exists_cons_of_ne_nil hchars
  rw [hfirst] at hstart
  have hstays : first ≠ '/' := fun heq => hstart (congrArg some heq)
  rw [hfirst, List.dropWhile_cons_of_neg (by simpa using hstays), ← hfirst, String.ofList_toList]

/-- Below such a path, the path of a record is used as it is. -/
theorem collectionPath_itemPath_self (hkey : key ≠ "") (hpath : Unslashed path)
    (hself : collectionPath path = path) :
    collectionPath (Command.itemPath path key) = Command.itemPath path key := by
  obtain ⟨hfront, hcollection⟩ := collectionPath_of_unslashed hpath
  rw [hself] at hcollection
  have hchars : path.toList = path.toList.dropWhile (· == '/') := by
    conv_lhs => rw [hcollection, String.toList_ofList]
  rw [collectionPath_itemPath path hkey, if_neg hfront, ← hchars, Command.itemPath,
    ← String.toList_inj, String.toList_ofList, String.toList_append, String.toList_append]
  simp

/-- A key is written with plain characters and escapes, its bytes are read back from there, and the
requests below the path of a collection with the key as last segment are served by the first row
that has it as `id`: they are refused if there is none. -/
theorem segment_serves (s : Settings) (hkey : key ≠ "") (hne : path ≠ "")
    (hstart : path.toList.head? ≠ some '/') (hending : path.toList.getLast? ≠ some '/')
    (hqueued : st.queued = []) (hrows : KeyMap.get? st.collections path = some rows)
    (hfree : KeyMap.get? st.collections (Command.itemPath path key) = none) :
    Escaped Key.isPlain (Key.segment key).toList ∧
      String.fromUTF8? (unescapeBytes (utf8Bytes (Key.segment key))).toByteArray = some key ∧
      ((∀ row ∈ rows, hasId key row = false) → ServesNone s st (Command.itemPath path key)) ∧
      ∀ front row back, FirstWithId key rows front row back →
        ServesRow s st (Command.itemPath path key) path front row back := by
  have hread : unescapeBytes (utf8Bytes (Key.segment key)) = utf8Bytes key :=
    unescapeBytes_percentEncode (by decide) key
  obtain ⟨hpath, hself⟩ := unslashed_and_collectionPath hne hstart hending
  have haddresses : ∀ request : Request, request.path = Command.itemPath path key →
      Addresses st.collections request path key rows := by
    intro request hrequest
    rw [← collectionPath_itemPath_self hkey hpath hself] at hfree
    exact hself ▸ addresses_itemPath hkey hpath hrequest (hself.symm ▸ hrows) hfree
  refine ⟨escaped_percentEncode _ key, ?_, servesNone_of_addresses hqueued haddresses,
    fun front row back hfirst => servesRow_of_addresses hqueued haddresses hfirst⟩
  rw [hread, fromUTF8?_utf8Bytes]

/-- Two rows have a key with a percent sign, a slash and Greek letters; the first of them is removed
by it. -/
theorem segment_serves_greek :
    let s : Settings := {}
    let song (id title : String) : Json := .object [("id", .text id), ("title", .text title)]
    let rows := [song "50" "a", song "50%/α,β" "b", song "%CE%B1" "c", song "50%/α,β" "d"]
    let st : Store := { collections := [("v1", []), ("v1/songs", rows)] }
    let request : Request := { method := .delete, path := "v1/songs/50%25%2F%CE%B1,%CE%B2" }
    send s request st = (.ok { status := 204 }, (st.seen request).withRows "v1/songs"
      [song "50" "a", song "%CE%B1" "c", song "50%/α,β" "d"]) := by
  intro s song rows st request
  have hpath : request.path = Command.itemPath "v1/songs" "50%/α,β" := by decide +kernel
  have hfirst : FirstWithId "50%/α,β" rows [song "50" "a"] (song "50%/α,β" "b")
      [song "%CE%B1" "c", song "50%/α,β" "d"] :=
    ⟨rfl, by decide +kernel, by decide +kernel⟩
  have hserves : ∀ front row back, FirstWithId "50%/α,β" rows front row back →
      ServesRow s st (Command.itemPath "v1/songs" "50%/α,β") "v1/songs" front row back :=
    (segment_serves s (by decide) (by decide) (by decide) (by decide) (by rfl) (by rfl)
      (by decide +kernel)).2.2.2
  exact (hserves _ _ _ hfirst).delete request hpath rfl

end RestQuery.Store
