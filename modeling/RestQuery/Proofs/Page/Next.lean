import RestQuery.Connection.Open
import RestQuery.Proofs.Page.Loading
import RestQuery.Proofs.Page.Run
import RestQuery.Proofs.Query.Returns

/-!
# The page after a page

A response tells in which size its rows were counted, and the next page starts behind the rows that
it and the pages before it hold. A request names a page by a size and a number, so the start is met
only if it is a multiple of the size asked for. That is the size told, unless it is above the
maximum that the client is set to (`Query.sizeAskedFor`). `Connection.nextPage_continues` says which
page is asked for next, and that it starts where the last one ended exactly if the size divides the
start; `Connection.nextPage_reads_again` is a page that starts before it.
-/

namespace RestQuery

open Session Text

variable {σ : Type}

/-- The size in which the next page is asked for, where a response tells of a size: the one told,
unless that is above the maximum. Then it is the limit, if that is below it, or the default. -/
def Query.sizeAskedFor (config : Config) (q : Query) (size : Nat) : Nat :=
  if size ≤ config.maxPerPage then size
  else (q.limit.filter (· < config.maxPerPage)).getD config.defaultPerPage

/-- A number of pages that is told has 64 bits. -/
theorem Page.Info.pageCount_le {names : HeaderNames} {r : Response} {count : Nat}
    (h : (ofResponse names r).pageCount = some count) : count ≤ maxWord64 := by
  obtain ⟨value, -, hread⟩ := Option.bind_eq_some_iff.mp h
  simpa using (Option.filter_eq_some_iff.mp hread).2

/-- A request for a page of a compiled query, which tells the page and its size last. -/
structure Request.IsForPage (r : Request) (d : Descriptor) (size page : Nat) : Prop where
  method : r.method = .get
  path : r.path = d.uri
  query : r.query = d.clauses.fixedPairs ++ [("per-page", toString size), ("page", toString page)]

namespace Query

variable {config : Config} {q : Query}

/-- A query for a later page tells its size and its number. -/
theorem pageClauses_moved (config : Config) (q : Query) (size offset : Nat) :
    (q.withWindow size offset).pageClauses config =
      (some (q.sizeAskedFor config size), some (offset / q.sizeAskedFor config size + 1)) := by
  have hsize : ((q.withWindow size offset).ownPageSize? config).getD config.defaultPerPage =
      q.sizeAskedFor config size := by
    unfold ownPageSize? withWindow sizeAskedFor
    by_cases hmax : size ≤ config.maxPerPage
    · simp [Option.filter, hmax]
    · simp [Option.filter, hmax]
  rw [pageClauses_of_offset (q := q.withWindow size offset) rfl, hsize]

/-- All pages of a query are asked for in the same sizes. -/
theorem IsPageOf.sizeAskedFor_eq {q' : Query} (h : q'.IsPageOf q) (config : Config) :
    q'.sizeAskedFor config = q.sizeAskedFor config := by
  obtain rfl | ⟨size, offset, rfl⟩ := h
  · rfl
  · rfl

/-- Rows that can be read give a record at least. -/
theorem modelsOf_ne_nil {g : Catalog} {strict : Bool} {rows : List Json} {models : List Model}
    (hrows : rows ≠ []) (h : q.modelsOf g strict rows = .ok models) : models ≠ [] := by
  rw [modelsOf, if_neg (by simpa using hrows)] at h
  obtain ⟨s, -, h⟩ := bind_eq_ok_iff.mp h
  obtain ⟨read, hread, h⟩ := bind_eq_ok_iff.mp h
  have hne : read ≠ [] := by
    rw [← List.length_pos_iff, Model.length_of_ofRows? hread]
    exact List.length_pos_iff.mpr hrows
  split at h
  · -- The first record is no repetition.
    rw [Model.distinct] at h
    split at h
    · cases h
    · cases h
      intro hnone
      have hhead := Model.head?_dropRepeated read
      rw [hnone] at hhead
      exact hne (List.head?_eq_none_iff.mp hhead.symm)
  · cases h
    exact hne

end Query

namespace Cursor

variable {conn : Connection σ} {c asked : Cursor} {w w₁ : World σ} {response : Response}

/-- The query of a request that was sent compiles. -/
theorem exists_describe (hfetch : eval (asked.fetch conn) w = (.ok response, w₁)) :
    ∃ d, asked.query.describe conn.catalog conn.config [] = .ok d := by
  rw [eval_fetch, pageRequest] at hfetch
  cases hd : asked.query.describe conn.catalog conn.config [] with
  | error e =>
    rw [hd] at hfetch
    cases hfetch
  | ok d => exact ⟨d, rfl⟩

/-- The request for a later page of a query. -/
theorem pageRequest_moved {d : Descriptor}
    (hd : c.query.describe conn.catalog conn.config [] = .ok d) (size offset : Nat) :
    ∃ next, (c.moved size offset).pageRequest conn = .ok next ∧
      next.IsForPage d (c.query.sizeAskedFor conn.config size)
        (offset / c.query.sizeAskedFor conn.config size + 1) := by
  have hmoved := Query.describe_withWindow conn.catalog conn.config c.query size offset
  rw [hd, Query.pageClauses_moved] at hmoved
  have hrequest : (c.moved size offset).pageRequest conn = .ok (Descriptor.request { d with
      clauses := { d.clauses with
        perPage := some (c.query.sizeAskedFor conn.config size)
        page := some (offset / c.query.sizeAskedFor conn.config size + 1) } } .get) :=
    congrArg (Except.map (Descriptor.request · .get)) hmoved
  refine ⟨_, hrequest, rfl, rfl, ?_⟩
  simp only [Descriptor.request, Clauses.pairs_eq_append, List.append_assoc]
  rfl

/-- Whatever becomes of the rows of a page that was answered, the cursor stays with the query that
asked for it and with what the response told of it. -/
theorem frame_read (load : Loader σ) (hfetch : eval (asked.fetch conn) w = (.ok response, w₁)) :
    let c' := ((asked.read conn load).run w).1.1
    c'.query = asked.query ∧ c'.initial = asked.initial ∧
      c'.page = some (Page.Info.ofResponse conn.config.pageHeaders response) := by
  intro c'
  simp only [c', run_read, hfetch]
  split <;> exact ⟨rfl, rfl, rfl⟩

/-- Where the rows of a page can be read, there are records if there are rows. -/
theorem materialize_ne_nil {q q' : Query} {rows : List Json} {models : List Model}
    (hrows : rows ≠ []) (h : eval (materialize conn (conn.loader q') q rows) w = (.ok models, w₁)) :
    models ≠ [] := by
  rw [eval_materialize_eq] at h
  cases hread : q.modelsOf conn.catalog conn.config.strict rows with
  | error e =>
    rw [hread] at h
    cases h
  | ok read =>
    have hne := Query.modelsOf_ne_nil hrows hread
    rw [hread] at h
    dsimp only at h
    rw [if_neg (by simpa using hrows)] at h
    have hcontents := conn.loader_keepsContents q' read _ _ _ h
    rintro rfl
    exact hne (List.map_eq_nil_iff.mp hcontents.symm)

end Cursor

namespace Connection

variable {conn : Connection σ} {c asked c' : Cursor} {w w₁ w' : World σ} {response : Response}
  {result : Except Error (Option (List Model))}

/-- A cursor goes on after a page with rows that tells of a page to follow, unless its limit is
reached. -/
theorem state_of_page (hasked : c.advance? conn.config = some asked)
    (hfetch : eval (asked.fetch conn) w = (.ok response, w₁))
    (hrows : response.rows conn.config.envelope ≠ [])
    (hmore : (Page.Info.ofResponse conn.config.pageHeaders response).hasMore = true)
    (hcall : (conn.nextPage c).run w = ((c', result), w'))
    (hlimit : ∀ limit, c'.initial.limit = some limit → c'.fetched < limit) :
    c'.state = .fetching := by
  rw [nextPage_of_advance? hasked, Cursor.run_read, hfetch] at hcall
  have hstate := Cursor.state_asked hasked
  dsimp only at hcall
  split at hcall
  · cases hcall
    exact hstate
  · rename_i models w₂ hmodels
    cases hcall
    -- What is kept of the page stays below the limit, so nothing of it was cut.
    have hopen : ∀ limit, asked.initial.limit = some limit →
        asked.fetched + models.length < limit := by
      intro limit hq
      have hbelow : asked.fetched + (Cursor.keep asked models).length < limit := hlimit limit hq
      rw [Cursor.keep, hq] at hbelow
      dsimp only at hbelow
      rw [List.length_take] at hbelow
      omega
    have hlast := Cursor.isLast_eq_false (c := asked.told conn response) hopen
      (Cursor.materialize_ne_nil hrows hmodels) hmore
    exact (if_neg (hlast ▸ Bool.false_ne_true)).trans hstate

/-- After a page with rows that tells of a page to follow, the next request names a page by its
number. It starts where the page told of ends, if the size told is no more than the maximum; if it
is above it, the limit or the default is the size, and the page starts there exactly if that divides
the start. -/
theorem nextPage_continues {current count size : Nat}
    (hasked : c.advance? conn.config = some asked)
    (hfetch : eval (asked.fetch conn) w = (.ok response, w₁))
    (hrows : response.rows conn.config.envelope ≠ [])
    (htold : ∃ total, Page.Info.ofResponse conn.config.pageHeaders response =
      ⟨some size, some current, some count, total⟩)
    (hmore : current < count) (hpos : 1 ≤ size) (hword : current * size ≤ maxWord64)
    (hcall : (conn.nextPage c).run w = ((c', result), w'))
    (hlimit : ∀ limit, c'.initial.limit = some limit → c'.fetched < limit) :
    ∃ d next perPage page, asked.query.describe conn.catalog conn.config [] = .ok d ∧
      c'.nextRequest? conn = some (.ok next) ∧
      (page ≤ maxWord64 → next.IsForPage d perPage page) ∧
      ((page - 1) * perPage = current * size ↔ perPage ∣ current * size) ∧
      (size ≤ conn.config.maxPerPage →
        perPage = size ∧ page = current + 1 ∧ page ≤ maxWord64) ∧
      (conn.config.maxPerPage < size →
        perPage = (c.query.limit.filter (· < conn.config.maxPerPage)).getD
          conn.config.defaultPerPage ∧
        page = current * size / perPage + 1) := by
  obtain ⟨total, htold⟩ := htold
  have hhas : (Page.Info.ofResponse conn.config.pageHeaders response).hasMore = true := by
    rw [htold]
    exact decide_eq_true hmore
  obtain ⟨d, hd⟩ := Cursor.exists_describe hfetch
  obtain ⟨hquery, hinitial, -⟩ := Cursor.advance?_frame hasked
  -- The cursor is behind a page that told of the next.
  have hstate := state_of_page hasked hfetch hrows hhas hcall hlimit
  obtain ⟨hasks, -, hpage⟩ := Cursor.frame_read (conn.loader c.query) hfetch
  rw [← nextPage_of_advance? hasked, hcall] at hasks hpage
  dsimp only at hasks hpage
  have hcurrent : (Page.Info.ofResponse conn.config.pageHeaders response).currentPage =
      some current := congrArg Page.Info.currentPage htold
  have hsize : (Page.Info.ofResponse conn.config.pageHeaders response).perPage.getD
      (c'.query.perPage.getD conn.config.defaultPerPage) = size := by
    rw [htold]
    rfl
  have hwindow : c'.nextWindow? conn.config = some (size, current * size) := by
    rw [Cursor.nextWindow?_of_page hpage hhas hcurrent hsize, if_pos hword]
  have hadvance : c'.advance? conn.config = some (c'.moved size (current * size)) := by
    rw [Cursor.advance?_of_fetching conn.config hstate (Cursor.any_le_fetched_eq_false hlimit),
      hwindow]
    rfl
  obtain ⟨next, hnext, hfor⟩ := Cursor.pageRequest_moved (hasks ▸ hd) size (current * size)
  rw [hasks, hquery.sizeAskedFor_eq conn.config] at hfor
  refine ⟨d, next, _, _, hd, ?_, fun _ => hfor, ?_, fun hmax => ?_, fun hmax => ?_⟩
  · rw [Cursor.nextRequest?, hadvance, Option.map_some, hnext]
  · rw [Nat.add_sub_cancel]
    exact ⟨fun h => h ▸ Nat.dvd_mul_left _ _, Nat.div_mul_cancel⟩
  · rw [Query.sizeAskedFor, if_pos hmax, Nat.mul_div_cancel _ hpos]
    have hcount : count ≤ maxWord64 := Page.Info.pageCount_le (congrArg Page.Info.pageCount htold)
    exact ⟨rfl, rfl, by omega⟩
  · rw [Query.sizeAskedFor, if_neg (Nat.not_le_of_lt hmax)]
    exact ⟨rfl, rfl⟩

/-- The second page is asked for where a server tells of two, in pages of one record. -/
theorem nextPage_continues_second :
    let track : Schema := { typeName := "Track", fields := ["id"] }
    let response : Response :=
      { status := 200
        headers := [("x-pagination-current-page", "1"), ("x-pagination-page-count", "2"),
          ("x-pagination-per-page", "1")]
        body := .list [.object [("id", .nat 7)]] }
    let conn : Connection Unit :=
      { catalog := [track], config := {}, auth := .none, answer := fun _ w => (.ok response, w)
        pageBudget := 1 }
    let c : Cursor := { query := .of track, initial := ⟨none, none, none⟩ }
    let asked : Cursor := { c with state := .fetching }
    let w : World Unit := { backend := () }
    let called := (conn.nextPage c).run w
    let c' := called.1.1
    (c.advance? conn.config = some asked ∧
        eval (asked.fetch conn) w = (.ok response, (eval (asked.fetch conn) w).2) ∧
        response.rows conn.config.envelope ≠ [] ∧
        (∃ total, Page.Info.ofResponse conn.config.pageHeaders response =
          ⟨some 1, some 1, some 2, total⟩) ∧
        1 < 2 ∧ 1 ≤ 1 ∧ 1 * 1 ≤ maxWord64 ∧ called = ((c', called.1.2), called.2) ∧
        ∀ limit, c'.initial.limit = some limit → c'.fetched < limit) ∧
      ∃ d next perPage page, asked.query.describe conn.catalog conn.config [] = .ok d ∧
        c'.nextRequest? conn = some (.ok next) ∧
        (page ≤ maxWord64 → next.IsForPage d perPage page) ∧
        ((page - 1) * perPage = 1 * 1 ↔ perPage ∣ 1 * 1) ∧
        (1 ≤ conn.config.maxPerPage → perPage = 1 ∧ page = 1 + 1 ∧ page ≤ maxWord64) ∧
        (conn.config.maxPerPage < 1 →
          perPage = (c.query.limit.filter (· < conn.config.maxPerPage)).getD
            conn.config.defaultPerPage ∧
          page = 1 * 1 / perPage + 1) := by
  intro track response conn c asked w called c'
  have hasked : c.advance? conn.config = some asked := rfl
  have hfetch : eval (asked.fetch conn) w = (.ok response, (eval (asked.fetch conn) w).2) := rfl
  have hrows : response.rows conn.config.envelope ≠ [] := by decide
  have htold : ∃ total, Page.Info.ofResponse conn.config.pageHeaders response =
      ⟨some 1, some 1, some 2, total⟩ := ⟨none, by decide +kernel⟩
  have hword : 1 * 1 ≤ maxWord64 := by decide
  have hcall : called = ((c', called.1.2), called.2) := rfl
  have hlimit : ∀ limit, c'.initial.limit = some limit → c'.fetched < limit := by
    have hnone : c'.initial.limit = none := by decide +kernel
    rw [hnone]
    exact nofun
  exact ⟨⟨hasked, hfetch, hrows, htold, by decide, by decide, hword, hcall, hlimit⟩,
    nextPage_continues hasked hfetch hrows htold (by decide) (by decide) hword hcall hlimit⟩

/-- Where a server counts in pages of three and two records are the most that is asked for, the page
after the first starts one record before its end, and that record is read again. -/
theorem nextPage_reads_again :
    let track : Schema := { typeName := "Track", fields := ["id"] }
    let row (id : Nat) : Json := .object [("id", .nat id)]
    let rows := [row 1, row 2, row 3, row 4, row 5]
    let s : Store.Settings := { pageSize := 3, maxPageSize := 3 }
    let config : Config :=
      { baseUrl := "http://localhost", defaultPerPage := 2, maxPerPage := 2 }
    let conn : Connection Store :=
      { catalog := [track], config := config, auth := .none, answer := Store.send s
        pageBudget := 1 }
    let c : Cursor := { query := .of track, initial := ⟨none, none, none⟩ }
    let first := (conn.nextPage c).run { backend := Store.serve {} "tracks" rows }
    let second := (conn.nextPage first.1.1).run first.2
    let ids (call : (Cursor × Except Error (Option (List Model))) × World Store) :
        Except Error (Option (List (Option Json))) :=
      call.1.2.map (·.map (·.map fun m => KeyMap.get? m.attributes "id"))
    config.validate = .ok config ∧ conn.cursor (.of track) = .ok c ∧
      ids first = .ok (some [some (.nat 1), some (.nat 2), some (.nat 3)]) ∧
      first.1.1.page = some ⟨some 3, some 1, some 2, some 5⟩ ∧
      first.1.1.nextRequest? conn = some (.ok
        { method := .get, path := "tracks", query := [("per-page", "2"), ("page", "2")] }) ∧
      (2 - 1) * 2 ≠ 1 * 3 ∧
      ids second = .ok (some [some (.nat 3), some (.nat 4)]) := by
  intro track row rows s config conn c first second ids
  have hcursor : conn.cursor (.of track) = .ok c := rfl
  exact ⟨by decide +kernel, hcursor, by decide +kernel⟩

end Connection

end RestQuery
