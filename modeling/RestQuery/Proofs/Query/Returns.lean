import RestQuery.Proofs.Connection.Reading
import RestQuery.Proofs.Query.All

/-!
# Queries that a store answers come to an end

`all` reads pages until it is told of no further one. A store tells the number of every page and how
many there are, and a cursor that asks for the page after it is answered by that page, as long as
both sides allow the page size. So the pages are numbered on (`ServedQuery.outcome_readPage`), and a
loop that may read as many pages as the rows fill returns (`ServedQuery.drain_returns`), whatever
the query is keyed by and wherever its window lies.
-/

namespace RestQuery

open Session Text

/-- What is left of some records without repetitions is some of them. -/
theorem Model.dropRepeated_sublist (seen : List String) (models : List Model) :
    List.Sublist (dropRepeated seen models) models := by
  induction models generalizing seen with
  | nil => exact .slnil
  | cons m rest ih =>
    unfold dropRepeated
    split
    · exact .refl _
    · dsimp only
      split
      · exact (ih seen).cons m
      · exact (ih _).cons_cons m

/-- The first of some records is no repetition. -/
theorem Model.head?_dropRepeated (models : List Model) :
    (dropRepeated [] models).head? = models.head? := by
  cases models with
  | nil => rfl
  | cons m rest =>
    unfold dropRepeated
    split
    · rfl
    · dsimp only
      rw [if_neg List.not_mem_nil]
      rfl

/-- Rows with declared fields only, read for a query, give records of these rows, and of the first
row the first. -/
theorem Query.modelsOf_of_declares (g : Catalog) (strict : Bool) {q : Query} {t : Schema}
    {rows : List Json} (hschema : q.schema = some t) (hdeclares : ∀ row ∈ rows, t.Declares row)
    (hkey : q.joins ≠ [] → q.index = none → t.primaryKey ≠ []) :
    ∃ models, q.modelsOf g strict rows = .ok models ∧
      (∀ m ∈ models, ∃ row ∈ rows, m = Model.ofFields t row) ∧
      models.head? = rows.head?.map (Model.ofFields t) := by
  have hread := Model.ofRows?_of_declares g strict hdeclares
  have hrows : ∀ m ∈ rows.map (Model.ofFields t), ∃ row ∈ rows, m = Model.ofFields t row := by
    intro m hm
    obtain ⟨row, hrow, rfl⟩ := List.mem_map.mp hm
    exact ⟨row, hrow, rfl⟩
  unfold modelsOf
  by_cases hnone : rows.isEmpty
  · obtain rfl := List.isEmpty_iff.mp hnone
    exact ⟨[], rfl, nofun, rfl⟩
  have hreadRows : q.readRows g strict t rows =
      if !q.joins.isEmpty && q.index.isNone then Model.distinct t (rows.map (Model.ofFields t))
      else .ok (rows.map (Model.ofFields t)) := by
    rw [readRows, hread]
    rfl
  rw [if_neg hnone, schema?, hschema]
  show ∃ models, q.readRows g strict t rows = _ ∧ _
  rw [hreadRows]
  split
  · rename_i hdrops
    obtain ⟨hjoined, hunkeyed⟩ := dropsRepeated_iff.mp hdrops
    have hfields : ¬ t.primaryKey.isEmpty = true := fun hempty =>
      hkey hjoined hunkeyed (List.isEmpty_iff.mp hempty)
    rw [Model.distinct, if_neg hfields]
    refine ⟨_, rfl, fun m hm => hrows m ((Model.dropRepeated_sublist [] _).subset hm), ?_⟩
    rw [Model.head?_dropRepeated, List.head?_map]
  · exact ⟨_, rfl, hrows, List.head?_map⟩

/-- A query for a later page, of a size that is allowed, asks for it by its number. -/
theorem Query.pageClauses_later {config : Config} (q : Query) {size : Nat} (hpos : 1 ≤ size)
    (hmax : size ≤ config.maxPerPage) (k : Nat) :
    (q.withWindow size (k * size)).pageClauses config = (some size, some (k + 1)) := by
  have hstart := pageClauses_withWindow (q := { q with offset := none }) hpos hmax k
  rwa [Option.getD_none, Nat.zero_div, Nat.zero_add, Nat.zero_add] at hstart

/-- Handing out records leaves the place of a cursor alone. -/
theorem Cursor.labelAll_place (c : Cursor) (models : List Model) :
    (c.labelAll models).1.query = c.query ∧ (c.labelAll models).1.page = c.page ∧
      (c.labelAll models).1.state = c.state := by
  have hlabel : ∀ (c : Cursor) (m : Model), (c.label m).1.query = c.query ∧
      (c.label m).1.page = c.page ∧ (c.label m).1.state = c.state := by
    intro c m
    unfold label
    split <;> exact ⟨rfl, rfl, rfl⟩
  induction models generalizing c with
  | nil => exact ⟨rfl, rfl, rfl⟩
  | cons m rest ih =>
    obtain ⟨hquery, hpage, hstate⟩ := hlabel c m
    obtain ⟨hquery', hpage', hstate'⟩ := ih (c.label m).1
    exact ⟨hquery'.trans hquery, hpage'.trans hpage, hstate'.trans hstate⟩

/-- A query for rows of a type that a store serves, in pages of a size that both sides allow. -/
structure ServedQuery (conn : Connection Store) (s : Store.Settings)
    (collections : KeyMap (List Json)) (q : Query) (t : Schema) (rows : List Json) (size : Nat) :
    Prop where
  /-- The connection leads to the store and knows the names of its headers. -/
  answer : conn.answer = Store.send s
  pageHeaders : conn.config.pageHeaders = s.pageHeaders
  distinct : s.pageHeaders.Distinct
  /-- The query reads records of the type from the rows, which are objects with declared fields
  only. -/
  schema : q.schema = some t
  served : KeyMap.get? collections (Store.collectionPath (trim q.resourceName)) = some rows
  declares : ∀ row ∈ rows, t.Declares row
  compiles : ∃ d, q.describe conn.catalog conn.config [] = .ok d
  /-- Records that joins repeat are told apart by a primary key. -/
  keyed : t.primaryKey = [] → q.index = none → q.joins = [] ∧ q.pending = []
  /-- The size is that of the first request, and both sides allow it. -/
  size_eq : size = q.firstPageSize conn.config s
  size_pos : 1 ≤ size
  size_le : size ≤ conn.config.maxPerPage
  size_le_store : size ≤ s.maxPageSize
  /-- The page sizes and the number of rows have 64 bits. -/
  maxPerPage_le : conn.config.maxPerPage ≤ maxWord64
  length_le : rows.length ≤ maxWord64
  /-- So has the end of the first page, unless nothing is asked for. The store multiplies the number
  of a page by its size, which does not fit otherwise. -/
  end_le : q.limit = some 0 ∨ (q.offset.getD 0 / size + 1) * size ≤ maxWord64
  /-- The loop may read all pages that the rows fill. -/
  budget : max 1 ((rows.length + size - 1) / size) < conn.pageBudget

namespace ServedQuery

variable {conn : Connection Store} {s : Store.Settings} {collections : KeyMap (List Json)}
  {q p : Query} {t : Schema} {rows : List Json} {size : Nat} {w : World Store}

/-- The number of the first page has 64 bits, since its end has. -/
theorem page_le_word (h : ServedQuery conn s collections q t rows size)
    (hlimit : q.limit ≠ some 0) : q.offset.getD 0 / size + 1 ≤ maxWord64 :=
  Nat.le_trans (Nat.le_mul_of_pos_right _ h.size_pos) (h.end_le.resolve_left hlimit)

/-- The number of pages that all rows fill has 64 bits. -/
theorem pages_le (h : ServedQuery conn s collections q t rows size) {count : Nat}
    (hcount : count ≤ rows.length) : (count + size - 1) / size ≤ maxWord64 :=
  Nat.le_trans (Store.pageCount_le size count) (Nat.le_trans hcount h.length_le)

/-- A page of a query that joins relations holds records that are told apart. -/
theorem keyed_page (h : ServedQuery conn s collections q t rows size)
    (hp : q.prepare conn.catalog = .ok p) {q' : Query} (hpage : q'.IsPageOf p)
    (hjoined : q'.joins ≠ []) (hunkeyed : q'.index = none) : t.primaryKey ≠ [] := by
  intro hfields
  obtain ⟨-, hjoins, hindex, -⟩ := hpage.reads
  obtain ⟨-, hsame, -⟩ := Query.reads_of_prepare hp
  obtain ⟨hnone, hpending⟩ := h.keyed hfields ((hindex.trans hsame).symm.trans hunkeyed)
  rw [Query.prepare_eq_self _ hpending] at hp
  obtain rfl := Except.ok.inj hp
  exact hjoined (hjoins.trans hnone)

/-- What is told of a page: its size, its number, and a number of pages that the rows fill. -/
def Tells (rows : List Json) (size k : Nat) (page : Page.Info) : Prop :=
  page.perPage = some size ∧ page.currentPage = some k ∧
    ∃ count ≤ (rows.length + size - 1) / size, page.pageCount = some count

/-- A page that is asked for by its number is read, and its number is told. -/
theorem outcome_readPage (h : ServedQuery conn s collections q t rows size)
    (hp : q.prepare conn.catalog = .ok p) (hw : w.Holds collections) {c : Cursor}
    (hpage : c.query.IsPageOf p) {k : Nat} (hk : 1 ≤ k) (hword : k ≤ maxWord64)
    (hsize : (c.query.pageClauses conn.config).1.getD s.pageSize = size)
    (hown : ∀ n ∈ (c.query.pageClauses conn.config).1, n = size)
    (hnumber : (c.query.pageClauses conn.config).2.getD 1 = k) :
    ∃ page models, (eval (c.readPage conn pure) w).1 = .ok (page, models) ∧
      Tells rows size k page := by
  obtain ⟨d, hd⟩ := h.compiles
  obtain ⟨hschema, -⟩ := hpage.reads
  have hkeyed := h.keyed_page hp hpage
  obtain ⟨d', hd'⟩ : ∃ d', c.query.describe conn.catalog conn.config [] = .ok d' := by
    obtain ⟨perPage, page, heq⟩ := hpage.describe_eq conn.catalog conn.config
    rw [heq, Query.describe_of_prepare hp, hd]
    exact ⟨_, rfl⟩
  rw [← Query.pageClauses_of_describe hd'] at hsize hown hnumber
  have hserved : KeyMap.get? collections (Store.collectionPath d'.uri) = some rows := by
    rw [(hpage.of_describe hp hd').1]
    exact h.served
  obtain ⟨w₁, -, hread⟩ := hw.outcome_readPage_list h.answer pure hd' hserved
  let response := Store.list s rows (d'.request .get)
  -- The store serves the page that is asked for.
  have hquery : (d'.request .get).query = d'.clauses.pairs := rfl
  have hget : (d'.request .get).method ≠ .head := nofun
  obtain ⟨hserves, hnumbers⟩ := Clauses.read_page hquery hsize hown h.size_pos h.size_le_store
    (Nat.le_trans h.size_le h.maxPerPage_le) hnumber hk hword
  have hcount : (Store.matching rows (d'.request .get).query).length ≤ rows.length :=
    List.length_filter_le ..
  have hserved64 : s.pageSizeFor (d'.request .get) ≤ maxWord64 := by
    rw [hserves]
    exact Nat.le_trans h.size_le h.maxPerPage_le
  have htold := Store.info_list h.distinct (Nat.le_trans hcount h.length_le)
    (by rw [hnumbers]; exact hword) hserved64
  rw [hserves, hnumbers, ← h.pageHeaders] at htold
  -- Its rows hold records.
  have hdeclares : ∀ row ∈ response.rows conn.config.envelope, t.Declares row :=
    Store.declares_of_mem_list h.declares hget _
  obtain ⟨models, hmodels, -⟩ := Query.modelsOf_of_declares conn.catalog conn.config.strict
    (hschema.trans ((Query.reads_of_prepare hp).1.trans h.schema)) hdeclares hkeyed
  refine ⟨Page.Info.ofResponse conn.config.pageHeaders response, models, ?_, ?_⟩
  · rw [hread, Cursor.eval_materialize_pure, hmodels]
    rfl
  · show Tells rows size k (Page.Info.ofResponse conn.config.pageHeaders (Store.list s rows _))
    rw [htold]
    exact ⟨rfl, rfl, _, Nat.div_le_div_right (by omega), rfl⟩

/-- Behind a page, a cursor moves to the page after it, which is none that the rows do not fill. -/
theorem asked_behind {config : Config} {c asked : Cursor} {k : Nat} {page : Page.Info}
    (hstate : c.state ≠ .fresh) (htold : c.page = some page) (htells : Tells rows size k page)
    (hasked : c.advance? config = some asked) :
    k < (rows.length + size - 1) / size ∧ asked = c.moved size (k * size) := by
  obtain ⟨hsize, hnumber, count, hcount, hpages⟩ := htells
  obtain ⟨-, ⟨hfresh, -⟩ | ⟨-, size', offset, hwindow, rfl⟩⟩ := Cursor.advance?_cases hasked
  · exact absurd hfresh hstate
  unfold Cursor.nextWindow? at hwindow
  obtain ⟨current, hcurrent, hwindow⟩ := Option.bind_eq_some_iff.mp hwindow
  obtain rfl : page = current := Option.some.inj (htold.symm.trans hcurrent)
  obtain ⟨offset', hoffset, hpair⟩ := Option.bind_eq_some_iff.mp hwindow
  have hsize' : (page.perPage <|> c.query.perPage).getD config.defaultPerPage = size := by
    rw [hsize]
    rfl
  rw [hsize'] at hoffset hpair
  obtain ⟨rfl, rfl⟩ := Prod.mk.inj (Option.some.inj hpair)
  unfold Page.Info.nextOffset? at hoffset
  split at hoffset
  · rename_i hmore
    have hbelow : k < count := by simpa [Page.Info.hasMore, hnumber, hpages] using hmore
    have hnext : k * size = offset' := by
      simp only [hnumber, Option.bind_eq_bind, Option.bind_some] at hoffset
      split at hoffset
      · exact Option.some.inj hoffset
      · cases hoffset
    exact ⟨Nat.lt_of_lt_of_le hbelow hcount, by rw [hnext]⟩
  · cases hoffset

/-- A loop whose cursor is behind a page returns, if it may go on for the pages that are left. -/
theorem drain_returns (h : ServedQuery conn s collections q t rows size)
    (hp : q.prepare conn.catalog = .ok p) (hw : w.Holds collections) {c : Cursor} {k budget : Nat}
    {page : Page.Info} (hpage : c.query.IsPageOf p) (hstate : c.state ≠ .fresh)
    (htold : c.page = some page) (htells : Tells rows size k page)
    (hbudget : (rows.length + size - 1) / size - k < budget) (records : RecordSet) :
    ∃ read, (eval (c.drain conn pure records budget) w).1 = .ok read := by
  -- Every page that is read leaves one page fewer, so the budget is enough by induction on it.
  induction budget generalizing c k page records w with
  | zero => omega
  | succ budget ih =>
    rw [Cursor.eval_drain_page]
    dsimp only
    obtain ⟨hquery, hsame, hplace⟩ := ({ c with buffer := [] } : Cursor).labelAll_place c.buffer
    generalize ({ c with buffer := [] } : Cursor).labelAll c.buffer = handed
      at hquery hsame hplace ⊢
    cases hadvance : handed.1.advance? conn.config with
    | none => exact ⟨_, rfl⟩
    | some asked =>
      have hbehind : handed.1.state ≠ .fresh := hplace.trans_ne hstate
      obtain ⟨hbelow, rfl⟩ := asked_behind hbehind (hsame.trans htold) htells hadvance
      have hnext : (handed.1.moved size (k * size)).query.IsPageOf p := by
        rw [Cursor.moved, hquery]
        exact hpage.withWindow size (k * size)
      have hclauses := handed.1.query.pageClauses_later h.size_pos h.size_le k
      have hword := h.pages_le (Nat.le_refl rows.length)
      obtain ⟨page', models, hread, htells'⟩ := h.outcome_readPage
        (c := handed.1.moved size _) hp hw hnext (Nat.le_add_left 1 k) (by omega)
        (by rw [Cursor.moved, hclauses]; rfl)
        (by rw [Cursor.moved, hclauses]; simp) (by rw [Cursor.moved, hclauses]; rfl)
      have hafter := Cursor.keeps_readPage h.answer Loader.steady_pure
        (handed.1.moved size (k * size)) w hw
      dsimp only
      generalize eval ((handed.1.moved size (k * size)).readPage conn pure) w = outcome
        at hread hafter ⊢
      obtain ⟨result, after⟩ := outcome
      obtain rfl : result = .ok (page', models) := hread
      dsimp only
      split
      · exact ⟨_, rfl⟩
      · -- The cursor is behind one page more.
        refine ih hafter ?_ ?_ ?_ htells' (by omega) _
        · exact hnext
        · show (Cursor.deliver _ page' models).1.state ≠ .fresh
          rw [Cursor.state_deliver]
          split
          · exact nofun
          · exact hbehind
        · rfl

/-- All records of a query that a store serves are read, if no relations are loaded onto them. -/
theorem allWith_returns (h : ServedQuery conn s collections q t rows size)
    (hw : w.Holds collections) : ∃ records, (eval (conn.allWith pure q) w).1 = .ok records := by
  obtain ⟨d, hd⟩ := h.compiles
  obtain ⟨p, hp, -⟩ := bind_eq_ok_iff.mp hd
  obtain ⟨budget, hbudget⟩ : ∃ budget, conn.pageBudget = budget + 1 :=
    ⟨conn.pageBudget - 1, by have := h.budget; omega⟩
  let asked : Cursor := { Cursor.start p with state := .fetching }
  obtain ⟨hlimit, hoffset, hperPage⟩ := Query.window_of_prepare hp
  -- With a limit of zero, no page is asked for.
  have hadvance : (({ Cursor.start p with buffer := [] } : Cursor).labelAll
        (Cursor.start p).buffer).1.advance? conn.config = none ∨
      q.limit ≠ some 0 ∧ (({ Cursor.start p with buffer := [] } : Cursor).labelAll
        (Cursor.start p).buffer).1.advance? conn.config = some asked := by
    show (Cursor.start p).advance? conn.config = none ∨
      q.limit ≠ some 0 ∧ (Cursor.start p).advance? conn.config = _
    rw [Cursor.advance?_of_fresh _ rfl]
    split
    · exact .inl rfl
    · rename_i hopen
      refine .inr ⟨fun hzero => hopen ?_, rfl⟩
      show p.limit.any (· ≤ 0) = true
      rw [hlimit, hzero]
      rfl
  rw [conn.allWith_eq_drain pure hp, hbudget, Cursor.eval_drain_page]
  dsimp only
  obtain hnone | ⟨hsome, hasked⟩ := hadvance
  · rw [hnone]
    exact ⟨_, rfl⟩
  rw [hasked]
  dsimp only
  have hclauses : p.pageClauses conn.config = q.pageClauses conn.config :=
    Query.pageClauses_congr hlimit hoffset hperPage
  obtain ⟨⟨hsize, hown⟩, hnumber⟩ := Query.pageClauses_first h.size_eq
  rw [← hclauses] at hsize hown hnumber
  have hsame : asked.query.IsPageOf p := .inl rfl
  obtain ⟨page, models, hread, htells⟩ := h.outcome_readPage (c := asked) hp hw hsame
    (Nat.le_add_left 1 _) (h.page_le_word hsome) hsize hown hnumber
  have hafter := Cursor.keeps_readPage h.answer Loader.steady_pure asked w hw
  have hleft : (rows.length + size - 1) / size - (q.offset.getD 0 / size + 1) < budget := by
    have hpages := h.budget
    generalize (rows.length + size - 1) / size = pages at hpages ⊢
    generalize q.offset.getD 0 / size = before
    omega
  generalize eval (asked.readPage conn pure) w = outcome at hread hafter ⊢
  obtain ⟨result, after⟩ := outcome
  obtain rfl : result = .ok (page, models) := hread
  dsimp only
  split
  · exact ⟨_, rfl⟩
  · refine h.drain_returns hp hafter ?_ ?_ rfl htells hleft _
    · exact hsame
    show (Cursor.deliver _ page models).1.state ≠ .fresh
    rw [Cursor.state_deliver]
    split <;> exact nofun

end ServedQuery

end RestQuery
