import RestQuery.Proofs.Query.Returns
import RestQuery.Proofs.Query.Select

/-!
# The number of records, asked for and read

`count` and `exists` are told the number of records by one request without a body, and `all` reads
the records page by page. A store tells the number of the rows that match
(`ServedQuery.eval_total`), and the loop over the pages ends with a record of each of them
(`ServedQuery.size_all`), whatever fields are asked for. So the two numbers agree
(`Connection.count_eq_size_all`).
-/

namespace RestQuery

open Session Text

/-- A query that asks for all records that meet a condition, for no other records with them, and in
their order. -/
structure Query.IsWhole (q : Query) : Prop where
  limit : q.limit = none
  offset : q.offset = none
  joins : q.joins = []
  pending : q.pending = []
  eager : q.eager = []
  index : q.index = none

/-- Whether one request was sent from one world to another, which is a given one but for its
headers. -/
def World.AddsOne {σ : Type} (request : Request) (w w' : World σ) : Prop :=
  ∃ sent headers, w'.sent = w.sent ++ [sent] ∧ sent.request = { request with headers := headers }

/-- What is told without a body of a collection is told by a list of its rows. -/
theorem Store.answerTo_head {s : Settings} {collections : KeyMap (List Json)} {request : Request}
    {rows : List Json} (hhead : request.method = .head)
    (hrows : KeyMap.get? collections (collectionPath request.path) = some rows) :
    answerTo s collections request = list s rows request := by
  unfold answerTo
  rw [handle_collection hrows]
  simp only [onCollection, hhead]

namespace ServedQuery

variable {conn : Connection Store} {s : Store.Settings} {collections : KeyMap (List Json)}
  {q : Query} {t : Schema} {rows : List Json} {size : Nat} {d : Descriptor} {w : World Store}

/-- Without an offset, the first page ends with its size. -/
theorem end_le_word (h : ServedQuery conn s collections q t rows size) (hwhole : q.IsWhole) :
    q.offset.getD 0 + size ≤ maxWord64 := by
  rw [hwhole.offset, Option.getD_none, Nat.zero_add]
  exact Nat.le_trans h.size_le h.maxPerPage_le

/-- Without an offset, the first page has the first number. -/
theorem first_le_word (h : ServedQuery conn s collections q t rows size) (hwhole : q.IsWhole) :
    q.offset.getD 0 / size + 1 ≤ maxWord64 := by
  rw [hwhole.offset, Option.getD_none, Nat.zero_div]
  exact Nat.le_trans h.size_pos (Nat.le_trans h.size_le h.maxPerPage_le)

/-- The number of records that is told is that of the rows that match. It is asked for by the
compiled query, in one request without a body. -/
theorem eval_total (h : ServedQuery conn s collections q t rows size) (hwhole : q.IsWhole)
    (hd : q.describe conn.catalog conn.config [] = .ok d) (hw : w.Holds collections)
    (action : Action) :
    ∃ w', eval (conn.total q action) w =
        (.ok (Store.matching rows d.clauses.pairs).length, w') ∧
      w.AddsOne (d.request .head) w' := by
  let w₁ : World Store := { w with asked := w.asked + 1 }
  let request : Request := { d.request .head with headers := conn.auth.headers w.asked }
  have hw₁ : w₁.Holds collections :=
    ⟨⟨hw.live, hw.undisturbed⟩, hw.queued, hw.collections⟩
  have hquery : request.query = d.clauses.pairs := rfl
  -- What the store answers tells the number of the rows that match.
  have hserved : KeyMap.get? collections (Store.collectionPath request.path) = some rows := by
    show KeyMap.get? collections (Store.collectionPath d.uri) = some rows
    rw [(Query.of_describe hd).1]
    exact h.served
  have htotal : (Page.Info.ofResponse conn.config.pageHeaders
      (Store.list s rows request)).totalCount =
        some (Store.matching rows d.clauses.pairs).length := by
    obtain ⟨⟨hsize, hown⟩, hnumber⟩ := Query.pageClauses_first h.size_eq
    rw [← Query.pageClauses_of_describe hd] at hsize hown hnumber
    have hword : size ≤ maxWord64 := Nat.le_trans h.size_le h.maxPerPage_le
    obtain ⟨hserves, hnumbers⟩ := Clauses.read_page hquery hsize hown h.size_pos h.size_le_store
      hword hnumber (Nat.le_add_left 1 _) (h.first_le_word hwhole)
    have hcount : (Store.matching rows request.query).length ≤ maxWord64 :=
      Nat.le_trans (List.length_filter_le ..) h.length_le
    rw [h.pageHeaders, Store.info_list h.distinct hcount
      (by rw [hnumbers]; exact h.first_le_word hwhole) (by rw [hserves]; exact hword)]
    rfl
  obtain ⟨w', heval, -, hcount⟩ := hw₁.eval_execute_once h.answer request
  rw [Store.answerTo_head rfl hserved, Store.check_list] at heval
  -- One request was sent, which is the compiled query with other headers.
  obtain ⟨more, hmore, hall⟩ := conn.sends_execute request w₁
  rw [heval] at hmore
  obtain ⟨sent, rfl⟩ : ∃ sent, more = [sent] := by
    rw [hmore, List.length_append] at hcount
    exact List.length_eq_one_iff.mp (Nat.add_left_cancel hcount)
  obtain ⟨headers, hheaders⟩ := hall sent (List.mem_singleton_self sent)
  have hrun : eval (conn.total q action) w = (.ok ((Page.Info.ofResponse conn.config.pageHeaders
      (Store.list s rows request)).totalCount.getD 0), w') := by
    have hcommand := Connection.eval_command conn (q.addAction action) [] w
    rw [Query.describe_addAction hwhole.pending, hd] at hcommand
    rw [Connection.total, eval_bind_ok hcommand]
    show eval (conn.execute request >>= _) w₁ = _
    rw [eval_bind_ok heval]
    rfl
  refine ⟨w', ?_, sent, headers, hmore, hheaders⟩
  rw [hrun, htotal]
  rfl

/-- The query for all fields is read in the same pages of whole rows. -/
theorem storedRead (h : ServedQuery conn s collections q t rows size) (hwhole : q.IsWhole)
    (hd : q.describe conn.catalog conn.config [] = .ok d) :
    StoredRead conn s (q.selecting []) t { d with clauses := { d.clauses with fields := none } }
      rows size :=
  { answer := h.answer, pageHeaders := h.pageHeaders, distinct := h.distinct
    schema := h.schema, select := rfl, joins := hwhole.joins, pending := hwhole.pending
    eager := hwhole.eager, index := hwhole.index
    compiles := by
      rw [Query.describe_selecting, hd]
      rfl
    declares := h.declares, size_eq := h.size_eq, size_pos := h.size_pos, size_le := h.size_le
    size_le_store := h.size_le_store
    dvd_offset := by
      show size ∣ q.offset.getD 0
      rw [hwhole.offset]
      exact Nat.dvd_zero size
    maxPerPage_le := h.maxPerPage_le, length_le := h.length_le
    end_le := .inr (h.end_le_word hwhole) }

/-- No field is needed for the keys, which are numbers. -/
theorem selectedTwice (h : ServedQuery conn s collections q t rows size) (hwhole : q.IsWhole) :
    q.SelectedTwice conn s collections [] t rows :=
  { answer := h.answer, schema := h.schema, served := h.served, declares := h.declares
    index := by
      rw [hwhole.index]
      exact nofun
    keys := by
      have hnone : q.keyFields conn.catalog t = [] := by
        rw [Query.keyFields, hwhole.index, Query.prepare_eq_self conn.catalog hwhole.pending]
        dsimp only
        rw [hwhole.joins]
        rfl
      rw [hnone]
      exact fun _ hfield => absurd hfield List.not_mem_nil }

/-- All records are as many as the rows that match. -/
theorem size_all (h : ServedQuery conn s collections q t rows size) (hwhole : q.IsWhole)
    (hd : q.describe conn.catalog conn.config [] = .ok d) (hw : w.Holds collections) :
    ∃ records, (eval (conn.all q) w).1 = .ok records ∧
      records.size = (Store.matching rows d.clauses.pairs).length := by
  have hread := h.storedRead hwhole hd
  -- Which rows match does not depend on the fields that are asked for.
  have hmatching : Store.matching rows { d.clauses with fields := none }.pairs =
      Store.matching rows d.clauses.pairs := by
    rw [Store.matching, Store.matching, Clauses.criteria_pairs, Clauses.criteria_pairs]
  have hserves : w.Serves d.uri rows := by
    refine ⟨hw.toOpen, hw.queued, ?_⟩
    rw [hw.collections, (Query.of_describe hd).1]
    exact h.served
  have hdeclares : ∀ row ∈ Store.matching rows { d.clauses with fields := none }.pairs,
      t.Declares row := fun row hrow => h.declares row (List.mem_filter.mp hrow).1
  have hfound := Model.ofRows?_of_declares conn.catalog conn.config.strict hdeclares
  have hbudget : (q.selecting []).requestCount size
      (Store.matching rows { d.clauses with fields := none }.pairs).length < conn.pageBudget :=
    Nat.lt_of_le_of_lt
      (Query.requestCount_le hwhole.limit hwhole.offset size (List.length_filter_le ..)) h.budget
  obtain ⟨w', hall, -⟩ := hread.eval_all hserves hfound hbudget
  have halike := (h.selectedTwice hwhole).allAlike hw hw
  rw [hall] at halike
  obtain ⟨records, hrecords⟩ : ∃ records, (eval (conn.all q) w).1 = .ok records := by
    rcases hq : (eval (conn.all q) w).1 with e | records
    · rw [hq] at halike
      exact absurd hwhole.eager halike
    · exact ⟨records, rfl⟩
  refine ⟨records, hrecords, ?_⟩
  rw [hrecords] at halike
  have hmodels := (RecordSet.Alike.models halike).length_eq
  have hwindow : (q.selecting []).window = fun models : List Model => models := by
    funext models
    rw [Query.window, show (q.selecting []).limit = none from hwhole.limit,
      show (q.selecting []).offset = none from hwhole.offset]
    rfl
  rw [RecordSet.models_numbered, hwindow, List.length_map, hmatching] at hmodels
  rw [RecordSet.size, ← hmodels, RecordSet.models, List.length_map]

end ServedQuery

namespace Connection

/-- The number that a query is told of its records is how many are read, and whether there is one is
told likewise, each by one request without a body. -/
theorem count_eq_size_all {conn : Connection Store} {s : Store.Settings}
    {collections : KeyMap (List Json)} {q : Query} {t : Schema} {rows : List Json} {size : Nat}
    {w w' : World Store} (h : ServedQuery conn s collections q t rows size) (hwhole : q.IsWhole)
    (hw : w.Holds collections) (hw' : w'.Holds collections) :
    ∃ d records, q.describe conn.catalog conn.config [] = .ok d ∧
      (eval (conn.all q) w).1 = .ok records ∧
      (∃ after, eval (conn.count q) w' = (.ok records.size, after) ∧
        w'.AddsOne (d.request .head) after) ∧
      ∃ after, eval (conn.exists q) w' = (.ok (decide (0 < records.size)), after) ∧
        w'.AddsOne (d.request .head) after := by
  obtain ⟨d, hd⟩ := h.compiles
  obtain ⟨records, hall, hsize⟩ := h.size_all hwhole hd hw
  obtain ⟨counted, hcount, hsent⟩ := h.eval_total hwhole hd hw' .count
  obtain ⟨checked, hexists, hsent'⟩ := h.eval_total hwhole hd hw' .exists
  rw [← hsize] at hcount hexists
  refine ⟨d, records, hd, hall, ⟨counted, hcount, hsent⟩, checked, ?_, hsent'⟩
  rw [Connection.exists, eval_bind_ok hexists]
  rfl

/-- Two of the songs have a title, which takes two pages of one to read and one request to tell. -/
theorem count_eq_size_all_songs :
    let conn : Connection Store :=
      { catalog := [song], config := {}, auth := .none, answer := Store.send {}, pageBudget := 4 }
    let q : Query :=
      { Query.of song with
        select := ["title"], condition := some (.fields [("title", .text "first")])
        perPage := some 1 }
    let rows := [songRow 1 "first", songRow 2 "second", songRow 3 "first"]
    let w : World Store := { backend := Store.serve {} "songs" rows }
    (ServedQuery conn {} w.backend.collections q song rows 1 ∧ q.IsWhole ∧
        w.Holds w.backend.collections) ∧
      (eval (conn.count q) w).1 = .ok 2 ∧
      ∃ d records, q.describe conn.catalog conn.config [] = .ok d ∧
        (eval (conn.all q) w).1 = .ok records ∧
        (∃ after, eval (conn.count q) w = (.ok records.size, after) ∧
          w.AddsOne (d.request .head) after) ∧
        ∃ after, eval (conn.exists q) w = (.ok (decide (0 < records.size)), after) ∧
          w.AddsOne (d.request .head) after := by
  intro conn q rows w
  have hdeclares (id : Nat) (title : String) : song.Declares (songRow id title) :=
    ⟨_, rfl, by simp [song, Schema.hasField, Relation.responseKey]⟩
  have hserved : ServedQuery conn {} w.backend.collections q song rows 1 :=
    { answer := rfl, pageHeaders := rfl, distinct := by decide +kernel
      schema := rfl
      served := by decide +kernel
      declares := by
        simp only [rows, List.forall_mem_cons, hdeclares, true_and]
        exact List.forall_mem_nil _
      compiles := ⟨_, rfl⟩
      keyed := fun hkey => absurd hkey (by decide)
      size_eq := by decide, size_pos := by decide, size_le := by decide
      size_le_store := by decide, maxPerPage_le := by decide
      length_le := by decide, end_le := by decide, budget := by decide }
  have hwhole : q.IsWhole := ⟨rfl, rfl, rfl, rfl, rfl, rfl⟩
  have hholds : w.Holds w.backend.collections := ⟨⟨rfl, rfl⟩, rfl, rfl⟩
  exact ⟨⟨hserved, hwhole, hholds⟩, by decide +kernel,
    count_eq_size_all hserved hwhole hholds hholds⟩

end Connection

end RestQuery
