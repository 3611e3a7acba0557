import RestQuery.Config.Validate
import RestQuery.Page.Provider
import RestQuery.Proofs.Connection.Reading
import RestQuery.Proofs.Query.All

/-!
# The pages of a listing that a store serves

A listing sets the limit, the page size and the offset of its query for every page, so that the size
that the query asks for and the size by which the offset is counted agree, as long as the connection
asks for pages of that size (`Listing.pageClauses_pageQuery`). A page is then the stretch of the
rows that its number tells (`Listing.Stored.eval_fetch`), and the pages read one after another are
all rows in order (`Listing.pages_tile`). A page size above the maximum of the connection is not
used, and the offsets of a listing with such pages leave rows out (`Listing.pages_leave_gaps`).
-/

namespace RestQuery

open Session Text

namespace Listing

variable {conn : Connection Store} {s : Store.Settings} {l : Listing} {t : Schema}
  {rows : List Json} {collections : KeyMap (List Json)} {w : World Store} {number : Nat}

/-! ## The query for a page -/

/-- The query for a page has the page as its window, and perhaps another order. -/
theorem pageQuery_eq (l : Listing) (number : Nat) :
    ∃ order, l.pageQuery number =
      { l.query with
        limit := some l.pageSize, perPage := some l.pageSize
        offset := some (number * l.pageSize), order := order } := by
  -- One sorting is added after another, so the induction is over any query to add to.
  have hsort : ∀ (sort : List (String × Direction)) (q : Query), ∃ order,
      sort.foldl (fun q entry => q.orderBy entry.1 entry.2) q =
        { q with order := order } := by
    intro sort
    induction sort with
    | nil => exact fun q => ⟨q.order, rfl⟩
    | cons entry rest ih =>
      intro q
      obtain ⟨order, horder⟩ := ih (q.orderBy entry.1 entry.2)
      exact ⟨order, horder⟩
  exact hsort l.sort _

/-- A page of a size that the connection asks for is asked for by that size and its number. -/
theorem pageClauses_pageQuery {config : Config} (hpos : 1 ≤ l.pageSize)
    (hmax : l.pageSize ≤ config.maxPerPage) (number : Nat) :
    (l.pageQuery number).pageClauses config = (some l.pageSize, some (number + 1)) := by
  obtain ⟨order, horder⟩ := l.pageQuery_eq number
  have hown : (l.pageQuery number).ownPageSize? config = some l.pageSize := by
    rw [horder, Query.ownPageSize?]
    simp [Option.filter, hmax]
  have hoffset : (l.pageQuery number).offset = some (number * l.pageSize) := by rw [horder]
  rw [Query.pageClauses_of_offset hoffset, hown, Option.getD_some, Nat.mul_div_cancel _ hpos]

/-! ## Reading a page -/

/-- A listing of the records of a type, without a condition and without relations, that a store
shows in pages of its size. -/
structure Stored (conn : Connection Store) (s : Store.Settings) (l : Listing) (t : Schema)
    (rows : List Json) : Prop where
  /-- The connection leads to the store and knows the names of its headers. -/
  answer : conn.answer = Store.send s
  pageHeaders : conn.config.pageHeaders = s.pageHeaders
  distinct : s.pageHeaders.Distinct
  /-- The query may ask for some fields only, in any order. -/
  schema : l.query.schema = some t
  condition : l.query.condition = none
  joins : l.query.joins = []
  pending : l.query.pending = []
  eager : l.query.eager = []
  /-- The rows are objects with declared fields only. -/
  declares : ∀ row ∈ rows, t.Declares row
  length_le : rows.length ≤ maxWord64
  /-- Both sides allow the page size. -/
  size_pos : 1 ≤ l.pageSize
  size_le : l.pageSize ≤ conn.config.maxPerPage
  size_le_store : l.pageSize ≤ s.maxPageSize

/-- The rows that a listing shows, with the fields that it asks for. -/
def shown (l : Listing) (rows : List Json) : List Json :=
  rows.map (Store.project (Query.commaList l.query.select))

/-- What a server tells of a page of a listing of so many rows. -/
def pageInfo (l : Listing) (number count : Nat) : Page.Info where
  perPage := some l.pageSize
  currentPage := some (number + 1)
  pageCount := some ((count + l.pageSize - 1) / l.pageSize)
  totalCount := some count

/-- The page of a listing of some records: the stretch that its number tells. -/
def page (l : Listing) (models : List Model) (number : Nat) : Page where
  models := (models.drop (number * l.pageSize)).take l.pageSize
  info := l.pageInfo number models.length
  number := number
  size := l.pageSize

namespace Stored

/-- The compiled query for a page. -/
theorem describe_pageQuery (h : l.Stored conn s t rows) (number : Nat) :
    ∃ d, (l.pageQuery number).describe conn.catalog conn.config [] = .ok d ∧
      d.uri = trim l.query.resourceName ∧ d.clauses.fields = Query.commaList l.query.select ∧
      d.clauses.filter = none ∧ d.clauses.perPage = some l.pageSize ∧
      d.clauses.page = some (number + 1) := by
  obtain ⟨order, horder⟩ := l.pageQuery_eq number
  have hpage := pageClauses_pageQuery h.size_pos h.size_le number
  have hpending : (l.pageQuery number).pending = [] := by
    rw [horder]
    exact h.pending
  have hfilter : (l.pageQuery number).compiledFilter [] = .ok [] := by
    rw [horder, Query.compiledFilter]
    dsimp only
    rw [h.condition]
  refine ⟨_, Query.describe_of_filter conn.catalog conn.config hpending hfilter, ?_⟩
  rw [hpage, horder]
  exact ⟨rfl, rfl, rfl, rfl, rfl⟩

/-- The request for a page is answered by that stretch of the rows. -/
theorem answer_page (h : l.Stored conn s t rows)
    (hrows : KeyMap.get? collections (Store.collectionPath (trim l.query.resourceName)) = some rows)
    (hword : (number + 1) * l.pageSize ≤ maxWord64) {d : Descriptor}
    (hd : (l.pageQuery number).describe conn.catalog conn.config [] = .ok d) :
    ∃ response, (Store.answerTo s collections (d.request .get)).check = .ok response ∧
      (∀ envelope, response.rows envelope =
        ((l.shown rows).drop (number * l.pageSize)).take l.pageSize) ∧
      Page.Info.ofResponse conn.config.pageHeaders response = l.pageInfo number rows.length := by
  obtain ⟨d', hd', huri, hfields, hfilter, hperPage, hpage⟩ := h.describe_pageQuery number
  obtain rfl : d = d' := Except.ok.inj (hd.symm.trans hd')
  have hpos : 0 < l.pageSize := h.size_pos
  -- The store reads the number and the size back, since they have 64 bits.
  have hnumber : number + 1 ≤ maxWord64 :=
    Nat.le_trans (Nat.le_mul_of_pos_right (number + 1) hpos) hword
  have hsizeWord : l.pageSize ≤ maxWord64 :=
    Nat.le_trans (Nat.le_mul_of_pos_left l.pageSize (Nat.succ_pos number)) hword
  have hquery : (d.request .get).query = d.clauses.pairs := rfl
  have hmatching : Store.matching rows (d.request .get).query = rows := by
    rw [Store.matching, hquery, Clauses.criteria_pairs, hfilter]
    exact List.filter_eq_self.mpr fun row _ => rfl
  have hsize : s.pageSizeFor (d.request .get) = l.pageSize := by
    rw [Clauses.pageSizeFor_eq hquery s (by simp [hperPage, hsizeWord]), hperPage,
      Option.filter_some, if_pos (decide_eq_true hpos), Option.getD_some,
      Nat.min_eq_left h.size_le_store]
  have hasked : Store.pageFor (d.request .get) = number + 1 := by
    rw [Clauses.pageFor_eq hquery (by simp [hpage, hnumber]), hpage, Option.getD_some]
    exact Nat.max_eq_left (Nat.le_add_left 1 number)
  have hlisted : Store.answerTo s collections (d.request .get) =
      Store.list s rows (d.request .get) := by
    apply Store.answerTo_collection rfl
    show KeyMap.get? collections (Store.collectionPath d.uri) = some rows
    rw [huri, hrows]
  have hget : (d.request .get).method ≠ .head := by simp [Descriptor.request]
  refine ⟨Store.list s rows (d.request .get), by rw [hlisted, Store.check_list], ?_, ?_⟩
  · intro envelope
    rw [Store.rows_list_project hget, hmatching, hsize, hasked, Clauses.queryValue?_fields hquery,
      hfields, Nat.add_sub_cancel, shown, ← List.map_drop, ← List.map_take]
  · rw [h.pageHeaders, Store.info_list h.distinct, hmatching, hsize, hasked, pageInfo]
    · rw [hmatching]
      exact h.length_le
    · rw [hasked]
      exact hnumber
    · rw [hsize]
      exact hsizeWord

/-- A page that is read holds the records of its stretch of the rows. -/
theorem eval_fetch (h : l.Stored conn s t rows) (hw : w.Holds collections)
    (hrows : KeyMap.get? collections (Store.collectionPath (trim l.query.resourceName)) = some rows)
    {models : List Model}
    (hmodels : Model.ofRows? conn.catalog conn.config.strict t (l.shown rows) = .ok models)
    (hword : (number + 1) * l.pageSize ≤ maxWord64) :
    ∃ w', eval (l.fetch conn number) w = (.ok (l.page models number), w') ∧
      w'.Holds collections := by
  obtain ⟨order, horder⟩ := l.pageQuery_eq number
  obtain ⟨d, hd, -⟩ := h.describe_pageQuery number
  obtain ⟨response, hresponse, hstretch, hinfo⟩ := h.answer_page hrows hword hd
  obtain ⟨w', hfetch, hholds, -⟩ := hw.eval_fetch h.answer (Cursor.start (l.pageQuery number))
  refine ⟨w', ?_, hholds⟩
  have hprepare : (l.pageQuery number).prepare conn.catalog = .ok (l.pageQuery number) := by
    apply Query.prepare_eq_self
    rw [horder]
    exact h.pending
  have hread : eval (conn.command (l.pageQuery number) >>= conn.readAll) w =
      (.ok response, w') := by
    have hquery : (Cursor.start (l.pageQuery number)).query = l.pageQuery number := rfl
    rw [hquery, hd] at hfetch
    exact hfetch.trans (congrArg (·, w') hresponse)
  have hcount : models.length = rows.length := by
    rw [Model.length_of_ofRows? hmodels, shown, List.length_map]
  unfold fetch
  rw [hprepare]
  show eval (conn.command (l.pageQuery number) >>= fun c => conn.readAll c >>= _) w = _
  rw [← bind_assoc, eval_bind_ok hread]
  dsimp only
  rw [hinfo]
  split
  · -- No rows hold no records.
    rename_i hnone
    obtain rfl : models = [] :=
      List.length_eq_zero_iff.mp (hcount.trans (Option.some.inj hnone))
    rw [page, List.drop_nil, List.take_nil, hcount]
    rfl
  · have hschema : (l.pageQuery number).schema = some t := by
      rw [horder]
      exact h.schema
    have hjoins : (l.pageQuery number).joins = [] := by
      rw [horder]
      exact h.joins
    have heager : (l.pageQuery number).eager = [] := by
      rw [horder]
      exact h.eager
    have hread : eval (Cursor.materialize conn pure (l.pageQuery number)
        (((l.shown rows).drop (number * l.pageSize)).take l.pageSize)) w' =
          (.ok ((models.drop (number * l.pageSize)).take l.pageSize), w') := by
      rw [Cursor.eval_materialize hschema hjoins, Model.ofRows?_drop_take hmodels]
    rw [conn.loader_eq_pure heager, hstretch, eval_bind_ok hread, page, hcount]
    rfl

/-- The offset of a page that ends within 64 bits and its number have 64 bits. -/
theorem numbers_le (h : l.Stored conn s t rows) (hword : (number + 1) * l.pageSize ≤ maxWord64) :
    (∀ offset ∈ (l.pageQuery number).offset, offset + l.pageSize ≤ maxWord64) ∧
      ∀ page ∈ ((l.pageQuery number).pageClauses conn.config).2, page ≤ maxWord64 := by
  obtain ⟨order, horder⟩ := l.pageQuery_eq number
  constructor
  · intro offset hoffset
    rw [horder] at hoffset
    obtain rfl : number * l.pageSize = offset := Option.some.inj hoffset
    rwa [← Nat.succ_mul]
  · intro page hpage
    rw [pageClauses_pageQuery h.size_pos h.size_le] at hpage
    obtain rfl : number + 1 = page := Option.some.inj hpage
    exact Nat.le_trans (Nat.le_mul_of_pos_right (number + 1) h.size_pos) hword

end Stored

/-! ## All pages -/

/-- The pages of a listing that a store serves, read one after another from the first, hold the
records of its rows in order and each once; any page is the stretch that its number tells. This
holds of all pages that end within 64 bits; the offset of such a page and its number have 64 bits
too. -/
theorem pages_tile (h : l.Stored conn s t rows)
    (hrows : KeyMap.get? collections (Store.collectionPath (trim l.query.resourceName)) =
      some rows) :
    ∃ models, Model.ofRows? conn.catalog conn.config.strict t (l.shown rows) = .ok models ∧
      (∀ number w, (number + 1) * l.pageSize ≤ maxWord64 → w.Holds collections →
        (∃ w', eval (l.fetch conn number) w = (.ok (l.page models number), w') ∧
          w'.Holds collections) ∧
        (∀ offset ∈ (l.pageQuery number).offset, offset + l.pageSize ≤ maxWord64) ∧
        ∀ page ∈ ((l.pageQuery number).pageClauses conn.config).2, page ≤ maxWord64) ∧
      ∀ count w, count * l.pageSize ≤ maxWord64 → w.Holds collections →
        ∃ pages w', eval ((List.range count).mapM (l.fetch conn)) w = (.ok pages, w') ∧
          w'.Holds collections ∧ pages.flatMap Page.models = models.take (count * l.pageSize) := by
  have hdeclares : ∀ row ∈ l.shown rows, t.Declares row :=
    Store.declares_of_mem_map_project h.declares _
  obtain ⟨models, hmodels⟩ : ∃ models,
      Model.ofRows? conn.catalog conn.config.strict t (l.shown rows) = .ok models :=
    ⟨_, Model.ofRows?_of_declares conn.catalog conn.config.strict hdeclares⟩
  refine ⟨models, hmodels, fun number w hword hw =>
    ⟨h.eval_fetch hw hrows hmodels hword, h.numbers_le hword⟩, ?_⟩
  intro count
  induction count with
  | zero =>
    intro w _ hw
    exact ⟨[], w, rfl, hw, by rw [Nat.zero_mul, List.take_zero, List.flatMap_nil]⟩
  | succ count ih =>
    intro w hword hw
    have hle : count * l.pageSize ≤ (count + 1) * l.pageSize :=
      Nat.mul_le_mul_right _ (Nat.le_succ count)
    obtain ⟨pages, w₁, hpages, hw₁, hflat⟩ := ih w (Nat.le_trans hle hword) hw
    -- The others left the collections alone, so the last page is read like the first.
    obtain ⟨w₂, hlast, hw₂⟩ := h.eval_fetch hw₁ hrows hmodels hword
    refine ⟨pages ++ [l.page models count], w₂, ?_, hw₂, ?_⟩
    · rw [List.range_succ, List.mapM_append, eval_bind_ok hpages, List.mapM_cons, List.mapM_nil,
        bind_assoc, eval_bind_ok hlast]
      rfl
    · rw [List.flatMap_append, hflat, List.flatMap_singleton, Nat.succ_mul, List.take_add]
      rfl

/-- The second page of three tracks, in pages of two, of which only the title is asked for. -/
theorem pages_tile_titles :
    let track : Schema := { typeName := "Track", fields := ["id", "title"] }
    let row (id : Nat) (title : String) : Json := .object [("id", .nat id), ("title", .text title)]
    let rows := [row 1 "a", row 2 "b", row 3 "c"]
    let conn : Connection Store :=
      { catalog := [track], config := {}, auth := .none, answer := Store.send {}, pageBudget := 1 }
    let l := ({ query := (Query.of track).selecting ["title"] } : Listing).withPageSize 2
    let w : World Store := { backend := Store.serve {} "tracks" rows }
    (l.Stored conn {} track rows ∧
      KeyMap.get? w.backend.collections (Store.collectionPath (trim l.query.resourceName)) =
        some rows ∧ w.Holds w.backend.collections) ∧
      (eval (l.fetch conn 1) w).1.map (fun page => page.models.map Model.attributes) =
        .ok [[("title", .text "c")]] ∧
      ∃ models, Model.ofRows? conn.catalog conn.config.strict track (l.shown rows) = .ok models ∧
        (∀ number w', (number + 1) * l.pageSize ≤ maxWord64 → w'.Holds w.backend.collections →
          (∃ w'', eval (l.fetch conn number) w' = (.ok (l.page models number), w'') ∧
            w''.Holds w.backend.collections) ∧
          (∀ offset ∈ (l.pageQuery number).offset, offset + l.pageSize ≤ maxWord64) ∧
          ∀ page ∈ ((l.pageQuery number).pageClauses conn.config).2, page ≤ maxWord64) ∧
        ∀ count w', count * l.pageSize ≤ maxWord64 → w'.Holds w.backend.collections →
          ∃ pages w'', eval ((List.range count).mapM (l.fetch conn)) w' = (.ok pages, w'') ∧
            w''.Holds w.backend.collections ∧
            pages.flatMap Page.models = models.take (count * l.pageSize) := by
  intro track row rows conn l w
  have hdeclares (id : Nat) (title : String) : track.Declares (row id title) :=
    ⟨_, rfl, by simp [track, Schema.hasField]⟩
  have hstored : l.Stored conn {} track rows :=
    { answer := rfl, pageHeaders := rfl, distinct := by decide +kernel
      schema := rfl, condition := rfl, joins := rfl, pending := rfl, eager := rfl
      declares := by
        simp only [rows, List.forall_mem_cons, hdeclares, true_and]
        exact List.forall_mem_nil _
      length_le := by decide
      size_pos := by decide, size_le := by decide, size_le_store := by decide }
  have hrows : KeyMap.get? w.backend.collections
      (Store.collectionPath (trim l.query.resourceName)) = some rows := by decide +kernel
  exact ⟨⟨hstored, hrows, ⟨rfl, rfl⟩, rfl, rfl⟩, by decide +kernel, pages_tile hstored hrows⟩

/-- A listing with pages of three shows one row of three where two are the most that is asked for,
and the offset of a page far behind the rows exceeds 64 bits. -/
theorem pages_leave_gaps :
    let track : Schema := { typeName := "Track", fields := ["id"] }
    let row (id : Nat) : Json := .object [("id", .nat id)]
    let rows := [row 1, row 2, row 3]
    let config : Config :=
      { baseUrl := "http://localhost", defaultPerPage := 1, maxPerPage := 2 }
    let conn : Connection Store :=
      { catalog := [track], config := config, auth := .none, answer := Store.send {}
        pageBudget := 1 }
    let l : Listing := { query := .of track }
    let w : World Store := { backend := Store.serve {} "tracks" rows }
    config.validate = .ok config ∧
      conn.config.pageHeaders = ({} : Store.Settings).pageHeaders ∧
      conn.config.pageHeaders.Distinct ∧ 3 ≤ ({} : Store.Settings).maxPageSize ∧
      (eval ((l.withPageSize 3).fetch conn 0) w).1.map (fun page =>
        page.models.map Model.attributes) = .ok [[("id", .nat 1)]] ∧
      ((l.withPageSize 2).pageQuery (2 ^ 63)).offset = some (maxWord64 + 1) := by
  decide +kernel

end Listing

end RestQuery
