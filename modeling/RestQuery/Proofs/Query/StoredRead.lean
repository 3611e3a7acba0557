import RestQuery.Proofs.Connection.Attempts
import RestQuery.Proofs.Model.Rows
import RestQuery.Proofs.Page.Cursor
import RestQuery.Proofs.Page.Delivery
import RestQuery.Proofs.Query.Pairs
import RestQuery.Proofs.Store

/-!
# The pages of a query that a store serves

`StoredRead` collects what is assumed of a query that is read from a store: a plain query of a type,
rows of that type, and a page size that both sides allow and that divides the offset. Under these
assumptions the query for the `i`-th page (`Query.atPage`) is answered by the `i`-th page of the
rows that match, counted from the offset (`eval_fetch_atPage`): client and store agree about the
size and the place of every page, also of the first, for which the query may leave the size to the
store.
-/

namespace RestQuery

open Session Text

/-- The page size that a query itself asks for: its own, or else its limit, if that is small
enough. -/
def Query.ownPageSize? (config : Config) (q : Query) : Option Nat :=
  (q.perPage.filter (· ≤ config.maxPerPage)).or (q.limit.filter (· < config.maxPerPage))

/-- The page size of the first request: that of the query, or what is usual for the client where an
offset is set, and for the store where none is. -/
def Query.firstPageSize (config : Config) (s : Store.Settings) (q : Query) : Nat :=
  (q.ownPageSize? config).getD
    (if q.offset.isSome then config.defaultPerPage else s.pageSize)

/-- The query for the page with so many pages of a size before it, from the offset on. The first is
asked for by the query itself. -/
def Query.atPage (q : Query) (size i : Nat) : Query :=
  if i = 0 then q else q.withWindow size (q.offset.getD 0 + i * size)

/-- A store behind a connection that is open serves some rows under a path, and replies to no
request otherwise than by its rows. -/
structure World.Serves (w : World Store) (path : String) (rows : List Json) : Prop
    extends w.Open where
  queued : w.backend.queued = []
  rows : KeyMap.get? w.backend.collections (Store.collectionPath path) = some rows

/-- A query, compiled to a descriptor, that reads rows of a type from a store in pages of a size. -/
structure StoredRead (conn : Connection Store) (s : Store.Settings) (q : Query) (t : Schema)
    (d : Descriptor) (rows : List Json) (size : Nat) : Prop where
  /-- The connection leads to the store and knows the names of its headers. -/
  answer : conn.answer = Store.send s
  pageHeaders : conn.config.pageHeaders = s.pageHeaders
  distinct : s.pageHeaders.Distinct
  /-- The query reads records of the type, and asks for no more than a condition, an order and a
  window. -/
  schema : q.schema = some t
  select : q.select = []
  joins : q.joins = []
  pending : q.pending = []
  eager : q.eager = []
  index : q.index = none
  compiles : q.describe conn.catalog conn.config [] = .ok d
  /-- The rows are objects with declared fields only. -/
  declares : ∀ row ∈ rows, t.Declares row
  /-- The size is that of the first request, and both sides allow it. -/
  size_eq : size = q.firstPageSize conn.config s
  size_pos : 1 ≤ size
  size_le : size ≤ conn.config.maxPerPage
  size_le_store : size ≤ s.maxPageSize
  /-- A page starts at the offset. -/
  dvd_offset : size ∣ q.offset.getD 0
  /-- The page sizes and the number of rows have 64 bits. -/
  maxPerPage_le : conn.config.maxPerPage ≤ maxWord64
  length_le : rows.length ≤ maxWord64
  /-- So has the end of the first page, unless nothing is asked for. The store multiplies the number
  of a page by its size, which does not fit otherwise. -/
  end_le : q.limit = some 0 ∨ q.offset.getD 0 + size ≤ maxWord64

namespace Query

variable {g : Catalog} {config : Config} {s : Store.Settings} {q : Query} {size i : Nat}

/-- The size that a query asks for, or the usual one, and which of them it is. -/
theorem chosenPageSize_eq (config : Config) (q : Query) :
    q.chosenPageSize config =
      ((q.ownPageSize? config).getD config.defaultPerPage, (q.ownPageSize? config).isSome) := by
  unfold chosenPageSize ownPageSize?
  cases q.perPage <;> cases q.limit <;> simp only [Option.filter] <;> grind

/-- With an offset, a page is asked for. -/
theorem pageClauses_of_offset {offset : Nat} (h : q.offset = some offset) :
    q.pageClauses config =
      (some ((q.ownPageSize? config).getD config.defaultPerPage),
        some (offset / (q.ownPageSize? config).getD config.defaultPerPage + 1)) := by
  rw [pageClauses, chosenPageSize_eq, h]

/-- Without an offset, no more than the query's own page size is asked for. -/
theorem pageClauses_of_no_offset (h : q.offset = none) :
    q.pageClauses config = (q.ownPageSize? config, none) := by
  rw [pageClauses, chosenPageSize_eq, h]
  cases q.ownPageSize? config <;> rfl

/-- What the store reads in the page clauses of the first page. -/
theorem pageClauses_first (hsize : size = q.firstPageSize config s) :
    ((q.pageClauses config).1.getD s.pageSize = size ∧ ∀ n ∈ (q.pageClauses config).1, n = size) ∧
      (q.pageClauses config).2.getD 1 = q.offset.getD 0 / size + 1 := by
  unfold firstPageSize at hsize
  cases hoffset : q.offset with
  | some offset =>
    rw [hoffset, Option.isSome_some, if_pos rfl] at hsize
    rw [pageClauses_of_offset hoffset, ← hsize]
    simp
  | none =>
    rw [hoffset, Option.isSome_none, if_neg Bool.false_ne_true] at hsize
    rw [pageClauses_of_no_offset hoffset, hsize]
    cases q.ownPageSize? config <;> simp

/-- What the store reads in the page clauses of a later page. -/
theorem pageClauses_withWindow (hpos : 1 ≤ size) (hmax : size ≤ config.maxPerPage) (i : Nat) :
    (q.withWindow size (q.offset.getD 0 + i * size)).pageClauses config =
      (some size, some (q.offset.getD 0 / size + i + 1)) := by
  have hown : (q.withWindow size (q.offset.getD 0 + i * size)).ownPageSize? config = some size := by
    simp [ownPageSize?, withWindow, Option.filter, hmax]
  have hpage : (q.offset.getD 0 + i * size) / size = q.offset.getD 0 / size + i :=
    Nat.add_mul_div_right _ _ hpos
  rw [pageClauses_of_offset (q := q.withWindow size (q.offset.getD 0 + i * size)) rfl, hown,
    Option.getD_some, hpage]

/-- What the store reads in the page clauses of a page: its size and its number. -/
theorem pageClauses_atPage (hsize : size = q.firstPageSize config s) (hpos : 1 ≤ size)
    (hmax : size ≤ config.maxPerPage) (i : Nat) :
    (((q.atPage size i).pageClauses config).1.getD s.pageSize = size ∧
        ∀ n ∈ ((q.atPage size i).pageClauses config).1, n = size) ∧
      ((q.atPage size i).pageClauses config).2.getD 1 = q.offset.getD 0 / size + i + 1 := by
  unfold atPage
  cases i with
  | zero => exact pageClauses_first hsize
  | succ i =>
    rw [if_neg (Nat.succ_ne_zero i), pageClauses_withWindow hpos hmax]
    simp

end Query

/-- A page is asked for by one request, which a store that serves the path answers by a list. -/
theorem World.Serves.eval_fetch {conn : Connection Store} {s : Store.Settings} {rows : List Json}
    {w : World Store} {c : Cursor} {d : Descriptor} (hw : w.Serves d.uri rows)
    (hanswer : conn.answer = Store.send s)
    (hdescribe : c.query.describe conn.catalog conn.config [] = .ok d) :
    ∃ request w', request.method = .get ∧ request.query = d.clauses.pairs ∧
      eval (c.fetch conn) w = (.ok (Store.list s rows request), w') ∧ w'.Serves d.uri rows ∧
      w'.sent.length = w.sent.length + 1 := by
  let w₁ : World Store := { w with asked := w.asked + 1 }
  let plain : Request := { d.request .get with headers := conn.auth.headers w.asked }
  -- The request that arrives differs from the compiled one in its headers only.
  obtain ⟨headers, hrequest⟩ := conn.authorized_eq plain w₁
  have hmethod : (conn.authorized plain w₁).method = .get := by rw [hrequest]; rfl
  have hquery : (conn.authorized plain w₁).query = d.clauses.pairs := by rw [hrequest]; rfl
  have hpath : (conn.authorized plain w₁).path = d.uri := by rw [hrequest]; rfl
  have hrows : KeyMap.get? w.backend.collections
      (Store.collectionPath (conn.authorized plain w₁).path) = some rows := by
    rw [hpath]
    exact hw.rows
  have hsend := Store.send_list (s := s) hw.queued hrows hmethod
  have hcheck : (conn.answer (conn.authorized plain w₁) w₁.backend).1.bind Response.check =
      .ok (Store.list s rows (conn.authorized plain w₁)) := by
    rw [hanswer, hsend]
    exact Store.check_list s rows _
  obtain ⟨w', heval, hopen, hbackend, hsent⟩ :=
    conn.eval_execute_ok plain (w := w₁) ⟨hw.live, hw.undisturbed⟩ hcheck
  have hstore : w'.backend =
      { w.backend with requests := w.backend.requests ++ [conn.authorized plain w₁] } := by
    rw [hbackend, hanswer, hsend]
  refine ⟨conn.authorized plain w₁, w', hmethod, hquery, ?_, ⟨hopen, ?_, ?_⟩, ?_⟩
  · rw [Cursor.eval_fetch, Cursor.pageRequest, hdescribe]
    exact heval
  · rw [hstore]
    exact hw.queued
  · rw [hstore]
    exact hw.rows
  · rw [hsent, List.length_append]
    rfl

namespace StoredRead

variable {conn : Connection Store} {s : Store.Settings} {q : Query} {t : Schema} {d : Descriptor}
  {rows : List Json} {size i : Nat}

/-- A page size has 64 bits. -/
theorem size_le_word (h : StoredRead conn s q t d rows size) : size ≤ maxWord64 :=
  Nat.le_trans h.size_le h.maxPerPage_le

/-- The number of the first page has 64 bits, since its end has. -/
theorem page_le_word (h : StoredRead conn s q t d rows size) (hlimit : q.limit ≠ some 0) :
    q.offset.getD 0 / size + 1 ≤ maxWord64 := by
  have hend := h.end_le.resolve_left hlimit
  have hpage : q.offset.getD 0 / size ≤ q.offset.getD 0 := Nat.div_le_self _ _
  have hpos := h.size_pos
  omega

/-- The number of rows that match has 64 bits. -/
theorem matching_le_word (h : StoredRead conn s q t d rows size) (query : List (String × String)) :
    (Store.matching rows query).length ≤ maxWord64 :=
  Nat.le_trans (List.length_filter_le ..) h.length_le

/-- The compiled query for a page is that of the query but for the page. -/
theorem describe_atPage (h : StoredRead conn s q t d rows size) (i : Nat) :
    ∃ d', (q.atPage size i).describe conn.catalog conn.config [] = .ok d' ∧ d'.uri = d.uri ∧
      d'.clauses.fields = none ∧ d'.clauses.filter = d.clauses.filter ∧
      (d'.clauses.perPage, d'.clauses.page) = (q.atPage size i).pageClauses conn.config := by
  have hfields : d.clauses.fields = none := by
    obtain ⟨prepared, hprepare, hd⟩ := bind_eq_ok_iff.mp h.compiles
    obtain ⟨clauses, hclauses, hd⟩ := bind_eq_ok_iff.mp hd
    obtain ⟨filter, -, hfilter⟩ := bind_eq_ok_iff.mp hclauses
    rw [Query.prepare_eq_self _ h.pending] at hprepare
    cases hprepare
    cases hfilter
    cases hd
    show Query.commaList q.select = none
    rw [h.select]
    rfl
  unfold Query.atPage
  cases i with
  | zero => exact ⟨d, h.compiles, rfl, hfields, rfl, Query.pageClauses_of_describe h.compiles⟩
  | succ i =>
    rw [if_neg (Nat.succ_ne_zero i), Query.describe_withWindow, h.compiles]
    exact ⟨_, rfl, rfl, hfields, rfl, rfl⟩

/-- What the store reads in a request for a page: the criteria of the query, its size and its
number. -/
theorem read_request (h : StoredRead conn s q t d rows size) {d' : Descriptor}
    (hfilter : d'.clauses.filter = d.clauses.filter)
    (hpages : (d'.clauses.perPage, d'.clauses.page) = (q.atPage size i).pageClauses conn.config)
    (hpage : q.offset.getD 0 / size + i + 1 ≤ maxWord64) {request : Request}
    (hquery : request.query = d'.clauses.pairs) :
    Store.matching rows request.query = Store.matching rows d.clauses.pairs ∧
      s.pageSizeFor request = size ∧ Store.pageFor request = q.offset.getD 0 / size + i + 1 := by
  obtain ⟨⟨hsize, hown⟩, hnumber⟩ := Query.pageClauses_atPage h.size_eq h.size_pos h.size_le i
  rw [← hpages] at hsize hown hnumber
  dsimp only at hsize hown hnumber
  refine ⟨?_, Clauses.read_page hquery hsize hown h.size_pos h.size_le_store h.size_le_word hnumber
    (Nat.le_add_left 1 _) hpage⟩
  unfold Store.matching
  rw [hquery, Clauses.criteria_pairs, Clauses.criteria_pairs, hfilter]

/-- The request for a page is answered by that page of the rows that match. -/
theorem eval_fetch_atPage (h : StoredRead conn s q t d rows size) {w : World Store}
    (hw : w.Serves d.uri rows) {c : Cursor} (hquery : c.query = q.atPage size i)
    (hpage : q.offset.getD 0 / size + i + 1 ≤ maxWord64) :
    ∃ response w', eval (c.fetch conn) w = (.ok response, w') ∧ w'.Serves d.uri rows ∧
      w'.sent.length = w.sent.length + 1 ∧
      (∀ envelope, response.rows envelope =
        ((Store.matching rows d.clauses.pairs).drop (q.offset.getD 0 + i * size)).take size) ∧
      Page.Info.ofResponse conn.config.pageHeaders response =
        q.pageInfo size i (Store.matching rows d.clauses.pairs).length := by
  obtain ⟨d', hdescribe, huri, hfields, hfilter, hpages⟩ := h.describe_atPage i
  rw [← huri] at hw ⊢
  rw [← hquery] at hdescribe
  obtain ⟨request, w', hmethod, hpairs, heval, hserves, hsent⟩ := hw.eval_fetch h.answer hdescribe
  obtain ⟨hmatching, hsize, hnumber⟩ := h.read_request hfilter hpages hpage hpairs
  refine ⟨Store.list s rows request, w', heval, hserves, hsent, ?_, ?_⟩
  · intro envelope
    have hget : request.method ≠ .head := by
      rw [hmethod]
      decide
    have hwhole : request.queryValue? "fields" = none := by
      rw [Clauses.queryValue?_fields hpairs, hfields]
    -- The pages before the offset are whole ones, so the page starts `i` pages behind it.
    rw [Store.rows_list hget hwhole, hmatching, hsize, hnumber, Nat.add_sub_cancel,
      Query.page_mul h.dvd_offset]
  · have hcount := h.matching_le_word d.clauses.pairs
    rw [h.pageHeaders, Store.info_list h.distinct, hmatching, hsize, hnumber, Query.pageInfo]
    · rw [hmatching]
      exact hcount
    · rw [hnumber]
      exact hpage
    · rw [hsize]
      exact h.size_le_word

end StoredRead

end RestQuery
