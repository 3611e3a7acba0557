import RestQuery.Proofs.Page.RecordSet
import RestQuery.Proofs.Query.StoredRead

/-!
# All records of a query that a store serves

`all` reads page after page until nothing of the query's window is left. `Cursor.Asks` says of a
cursor that it asks for the `i`-th page, having delivered the pages before it, and `Cursor.Drains`
of a cursor in the loop that it will ask for the `i`-th page next. One page either ends the loop or
leads to the next (`run_read_page`, `drains_holding`), so a loop from any page on delivers what is
left of the window (`eval_drain`), and one from the first page on the window itself:
`Connection.all_eq_window` gives the records, their keys and the number of requests.
-/

namespace RestQuery

open Session Text

namespace Cursor

variable {σ : Type} {conn : Connection σ} {load : Loader σ} {q : Query} {c : Cursor}
  {records : RecordSet} {size i : Nat}

/-! ## The loop -/

/-- Records of a type are read from rows alone if no relation is joined or loaded. -/
theorem eval_materialize {t : Schema} (hschema : q.schema = some t) (hjoins : q.joins = [])
    (rows : List Json) (w : World σ) :
    eval (materialize conn pure q rows) w =
      (Model.ofRows? conn.catalog conn.config.strict t rows, w) := by
  have hread : q.readRows conn.catalog conn.config.strict t rows =
      Model.ofRows? conn.catalog conn.config.strict t rows := by
    rw [Query.readRows, hjoins]
    cases Model.ofRows? conn.catalog conn.config.strict t rows <;> rfl
  cases rows with
  | nil => rw [Model.ofRows?]; rfl
  | cons row rest =>
    simp only [materialize, List.isEmpty_cons, Bool.false_eq_true, if_false, eval_bind, eval_lift,
      Query.schema?, hschema, hread]
    cases Model.ofRows? conn.catalog conn.config.strict t (row :: rest) <;> rfl

/-- The cursor whose records in hand were numbered. -/
def handedOut (c : Cursor) : Cursor :=
  { c with buffer := [], nextIndex := c.nextIndex + c.buffer.length }

/-- A round of the loop numbers the records in hand and asks for the next page. -/
theorem eval_drain_succ (hindex : c.query.index = none) (budget : Nat) (w : World σ) :
    eval (c.drain conn load records (budget + 1)) w =
      match (c.handedOut.nextPage conn load).run w with
      | ((_, .error e), after) => (.error e, after)
      | ((_, .ok none), after) => (.ok (records.insertAll (numberFrom c.nextIndex c.buffer)), after)
      | ((next, .ok (some models)), after) =>
        eval (({ next with buffer := models } : Cursor).drain conn load
          (records.insertAll (numberFrom c.nextIndex c.buffer)) budget) after := by
  have hlabel := labelAll_eq (c := { c with buffer := [] }) hindex c.buffer
  have hlift : eval (ExceptT.lift (c.handedOut.nextPage conn load) : Session σ _) w =
      (.ok ((c.handedOut.nextPage conn load).run w).1,
        ((c.handedOut.nextPage conn load).run w).2) := rfl
  rw [drain, hlabel]
  show eval (ExceptT.lift (c.handedOut.nextPage conn load) >>= _) w = _
  rw [eval_bind_ok hlift]
  rcases (c.handedOut.nextPage conn load).run w with ⟨⟨next, _ | _ | models⟩, after⟩ <;> rfl

/-- The loop ends with the records in hand once the cursor is exhausted. -/
theorem eval_drain_of_exhausted (hindex : c.query.index = none) (hstate : c.state = .exhausted)
    (budget : Nat) (w : World σ) :
    eval (c.drain conn load records (budget + 1)) w =
      (.ok (records.insertAll (numberFrom c.nextIndex c.buffer)), w) := by
  have hadvance : c.handedOut.advance? conn.config = none := if_pos hstate
  rw [eval_drain_succ hindex, nextPage_eq, hadvance]
  rfl

/-! ## Cursors between two pages -/

/-- A cursor asks for a page, having delivered the pages before it. -/
structure Asks (q : Query) (size i : Nat) (c : Cursor) : Prop where
  query : c.query = q.atPage size i
  limit : c.initial.limit = q.limit
  state : c.state = .fetching
  fetched : c.fetched = i * size
  nextIndex : c.nextIndex = i * size
  below : ∀ limit, q.limit = some limit → i * size < limit

/-- A cursor in the loop that is to ask for a page next: the records before it are in the set or in
hand. -/
structure Drains (config : Config) (q : Query) (size i : Nat) (window : List Model)
    (records : RecordSet) (c : Cursor) : Prop where
  index : c.query.index = none
  records : records.insertAll (numberFrom c.nextIndex c.buffer) = .numbered (window.take (i * size))
  asks : ∃ asked, c.handedOut.advance? config = some asked ∧ asked.Asks q size i

end Cursor

namespace Query

variable (q : Query) (size i : Nat)

/-- The query for a page differs from the query in its window only. -/
theorem withWindow_atPage (size' offset : Nat) :
    (q.atPage size i).withWindow size' offset = q.withWindow size' offset := by
  unfold atPage
  split <;> rfl

/-- The query for a page reads what the query reads. -/
theorem atPage_reads :
    (q.atPage size i).schema = q.schema ∧ (q.atPage size i).joins = q.joins ∧
      (q.atPage size i).index = q.index := by
  unfold atPage
  split <;> exact ⟨rfl, rfl, rfl⟩

end Query

namespace StoredRead

variable {conn : Connection Store} {s : Store.Settings} {q : Query} {t : Schema} {d : Descriptor}
  {rows : List Json} {size i : Nat} {all : List Model} {c asked : Cursor} {records : RecordSet}
  {w : World Store}

/-- The cursor after a page. -/
def afterPage (q : Query) (size i : Nat) (all : List Model) (c : Cursor) : Cursor :=
  { c with
    page := some (q.pageInfo size i all.length)
    fetched := i * size + (((q.window all).drop (i * size)).take size).length
    state := if (q.window all).length ≤ (i + 1) * size then .exhausted else .fetching }

/-- Reading a page delivers what of it lies in the window, at the cost of one request. -/
theorem run_read_page (h : StoredRead conn s q t d rows size) (hw : w.Serves d.uri rows)
    (hall : Model.ofRows? conn.catalog conn.config.strict t (Store.matching rows d.clauses.pairs) =
      .ok all)
    (hasks : asked.Asks q size i) (hpage : q.offset.getD 0 / size + i + 1 ≤ maxWord64) :
    ∃ w', (asked.read conn pure).run w =
        ((afterPage q size i all asked,
          .ok (if (q.window all).length ≤ i * size then none
            else some (((q.window all).drop (i * size)).take size))), w') ∧
      w'.Serves d.uri rows ∧ w'.sent.length = w.sent.length + 1 := by
  obtain ⟨response, w', hfetch, hserves, hsent, hrows, hinfo⟩ :=
    h.eval_fetch_atPage hw hasks.query hpage
  obtain ⟨hschema, hjoins, -⟩ := q.atPage_reads size i
  rw [← hasks.query] at hschema hjoins
  refine ⟨w', ?_, hserves, hsent⟩
  rw [Cursor.run_read, hfetch]
  dsimp only
  rw [Cursor.eval_materialize (hschema.trans h.schema) (hjoins.trans h.joins), hrows,
    Model.ofRows?_drop_take hall, hinfo, ← Model.length_of_ofRows? hall]
  dsimp only
  rw [Cursor.deliver_page (c := { asked with page := some (q.pageInfo size i all.length) })
    h.size_pos h.dvd_offset hasks.limit hasks.fetched hasks.below, hasks.state]
  rfl

/-- The cursor with a page in hand. -/
def holding (q : Query) (size i : Nat) (all : List Model) (c : Cursor) : Cursor :=
  { afterPage q size i all c with buffer := ((q.window all).drop (i * size)).take size }

/-- The page in hand is numbered on from the pages before it. -/
theorem insertAll_holding (h : StoredRead conn s q t d rows size) (hasks : asked.Asks q size i)
    (hstart : i * size ≤ (q.window all).length) :
    (holding q size i all asked).query.index = none ∧
      RecordSet.insertAll (.numbered ((q.window all).take (i * size)))
          (numberFrom (holding q size i all asked).nextIndex (holding q size i all asked).buffer) =
        .numbered ((q.window all).take ((i + 1) * size)) := by
  constructor
  · show asked.query.index = none
    rw [hasks.query, (q.atPage_reads size i).2.2, h.index]
  · show RecordSet.insertAll _ (numberFrom asked.nextIndex _) = _
    rw [hasks.nextIndex, Nat.succ_mul]
    exact RecordSet.insertAll_stretch hstart size

/-- Where some of the window lies behind a page, the loop goes on to the next page. -/
theorem drains_holding (h : StoredRead conn s q t d rows size) (hcount : all.length ≤ maxWord64)
    (hasks : asked.Asks q size i) (hmore : (i + 1) * size < (q.window all).length) :
    (holding q size i all asked).Drains conn.config q size (i + 1) (q.window all)
      (.numbered ((q.window all).take (i * size))) := by
  have hlength := q.length_window all
  have hsucc : (i + 1) * size = i * size + size := Nat.succ_mul i size
  have hbelow : ∀ limit, q.limit = some limit → (i + 1) * size < limit := by
    intro limit hlimit
    rw [hlimit, Option.getD_some] at hlength
    omega
  -- The page is full, so what is handed out with it ends where the next page starts.
  have hfull : (((q.window all).drop (i * size)).take size).length = size := by
    rw [List.length_take, List.length_drop]
    omega
  let next : Cursor := (holding q size i all asked).handedOut
  have hfetched : next.fetched = (i + 1) * size := by
    rw [hsucc]
    exact congrArg (i * size + ·) hfull
  have hnextIndex : next.nextIndex = (i + 1) * size := by
    rw [hsucc, ← hasks.nextIndex]
    exact congrArg (asked.nextIndex + ·) hfull
  have hstate : next.state = .fetching := if_neg (Nat.not_le_of_lt hmore)
  have hopen : next.initial.limit.any (· ≤ next.fetched) = false := by
    rw [hfetched, show next.initial.limit = q.limit from hasks.limit]
    cases hlimit : q.limit with
    | none => rfl
    | some limit =>
      have := hbelow limit hlimit
      simp only [Option.any_some, decide_eq_false_iff_not]
      omega
  have hwindow : next.nextWindow? conn.config = some (size, q.offset.getD 0 + (i + 1) * size) := by
    have hoffset := Query.nextOffset?_pageInfo h.size_pos h.dvd_offset hcount (i := i) (by omega)
    show ((q.pageInfo size i all.length).nextOffset?).bind (fun offset => some (size, offset)) = _
    rw [hoffset]
    rfl
  have hstart : i * size ≤ (q.window all).length := by omega
  obtain ⟨hindex, hrecords⟩ := h.insertAll_holding hasks hstart
  refine ⟨hindex, hrecords, next.moved size (q.offset.getD 0 + (i + 1) * size), ?_, ?_⟩
  · show next.advance? conn.config = _
    rw [Cursor.advance?_of_fetching _ hstate hopen, hwindow]
    rfl
  · refine ⟨?_, hasks.limit, hstate, hfetched, hnextIndex, hbelow⟩
    show asked.query.withWindow size (q.offset.getD 0 + (i + 1) * size) = _
    rw [hasks.query, q.withWindow_atPage]
    rfl

/-- The loop from a page on delivers the window, by a request for each page of it that is left, or
by one if none is. -/
theorem eval_drain (h : StoredRead conn s q t d rows size)
    (hall : Model.ofRows? conn.catalog conn.config.strict t (Store.matching rows d.clauses.pairs) =
      .ok all)
    {budget : Nat} (hbudget : max 1 (((q.window all).length + size - 1) / size - i) < budget)
    (hw : w.Serves d.uri rows) (hpage : q.offset.getD 0 / size + i + 1 ≤ maxWord64)
    (hdrains : c.Drains conn.config q size i (q.window all) records) :
    ∃ w', eval (c.drain conn pure records budget) w = (.ok (.numbered (q.window all)), w') ∧
      w'.sent.length = w.sent.length + max 1 (((q.window all).length + size - 1) / size - i) := by
  have hcount : all.length ≤ maxWord64 := by
    rw [Model.length_of_ofRows? hall]
    exact h.matching_le_word d.clauses.pairs
  have hpages (k : Nat) := Page.lt_pageCount_iff h.size_pos k (q.window all).length
  induction budget generalizing i c records w with
  | zero => omega
  | succ budget ih =>
    obtain ⟨hindex, hrecords, asked, hadvance, hasks⟩ := hdrains
    obtain ⟨w₁, hread, hserves, hsent⟩ := h.run_read_page hw hall hasks hpage
    have hhere := hpages i
    have hnext := hpages (i + 1)
    rw [Cursor.eval_drain_succ hindex, Cursor.nextPage_eq, hadvance, hrecords]
    dsimp only
    rw [hread]
    by_cases hrest : (q.window all).length ≤ i * size
    · -- Nothing of the window is left, which takes a request to know.
      refine ⟨w₁, ?_, by omega⟩
      rw [if_pos hrest, List.take_of_length_le hrest]
    rw [if_neg hrest]
    dsimp only
    by_cases hlast : (q.window all).length ≤ (i + 1) * size
    · -- The page is the last, so another round ends the loop without a request.
      obtain ⟨budget, rfl⟩ : ∃ b, budget = b + 1 := ⟨budget - 1, by omega⟩
      obtain ⟨hindex, hrecords⟩ := h.insertAll_holding hasks (Nat.le_of_not_le hrest)
      refine ⟨w₁, ?_, by omega⟩
      show eval ((holding q size i all asked).drain conn pure _ (budget + 1)) w₁ = _
      rw [Cursor.eval_drain_of_exhausted hindex (if_pos hlast), hrecords,
        List.take_of_length_le hlast]
    · -- The next page starts before the end of the window, so its number is small enough.
      have hpage : q.offset.getD 0 / size + (i + 1) + 1 ≤ maxWord64 := by
        have hlength := q.length_window all
        have hplace := Query.page_mul h.dvd_offset (i + 1)
        have := Nat.le_mul_of_pos_right (q.offset.getD 0 / size + (i + 1)) h.size_pos
        omega
      have hdrains := h.drains_holding hcount hasks (Nat.lt_of_not_le hlast)
      obtain ⟨w₂, heval, hsent₂⟩ := ih (by omega) hserves hpage hdrains
      exact ⟨w₂, heval, by omega⟩

end StoredRead

/-! ## All records -/

/-- How many requests all records take, where so many match: one for each page of the window, one to
know that the window is empty, and none if the limit tells that. -/
def Query.requestCount (q : Query) (size count : Nat) : Nat :=
  let left := count - q.offset.getD 0
  if q.limit = some 0 then 0 else max 1 ((min (q.limit.getD left) left + size - 1) / size)

/-- A query without a limit and an offset takes no more requests than all rows fill pages, or one.
-/
theorem Query.requestCount_le {q : Query} (hlimit : q.limit = none) (hoffset : q.offset = none)
    (size : Nat) {count total : Nat} (h : count ≤ total) :
    q.requestCount size count ≤ max 1 ((total + size - 1) / size) := by
  have hunlimited : q.requestCount size count = max 1 ((count + size - 1) / size) := by
    simp [requestCount, hlimit, hoffset]
  rw [hunlimited]
  exact max_le_max (Nat.le_refl 1) (Nat.div_le_div_right (by omega))

/-- The rows of the window are read as the window of the records. -/
theorem Model.ofRows?_window {g : Catalog} {strict : Bool} {t : Schema} {rows : List Json}
    {all : List Model} (h : Model.ofRows? g strict t rows = .ok all) (q : Query) :
    Model.ofRows? g strict t (q.window rows) = .ok (q.window all) := by
  unfold Query.window
  cases q.limit with
  | some limit => exact ofRows?_drop_take h _ limit
  | none =>
    have hdrop := ofRows?_drop_take h (q.offset.getD 0) rows.length
    have hlength := length_of_ofRows? h
    rwa [List.take_of_length_le (by rw [List.length_drop]; omega),
      List.take_of_length_le (by rw [List.length_drop]; omega)] at hdrop

/-- The cursor before the first page of a query. -/
def Cursor.start (q : Query) : Cursor :=
  { query := q, initial := { limit := q.limit, offset := q.offset, perPage := q.perPage } }

/-- Unless the limit is zero, the loop over a query begins with the first page. -/
theorem Cursor.start_drains {q : Query} (hindex : q.index = none) (hlimit : q.limit ≠ some 0)
    (config : Config) (size : Nat) (window : List Model) :
    (Cursor.start q).Drains config q size 0 window .empty := by
  have hopen : (start q).handedOut.initial.limit.any (· ≤ (start q).handedOut.fetched) = false := by
    show q.limit.any (· ≤ 0) = false
    cases hq : q.limit with
    | none => rfl
    | some limit =>
      rw [hq] at hlimit
      simpa using hlimit
  refine ⟨hindex, ?_, { (start q).handedOut with state := .fetching }, ?_, ?_⟩
  · rw [Nat.zero_mul]
    rfl
  · rw [advance?_of_fresh config rfl, hopen, if_neg Bool.false_ne_true]
  · refine ⟨rfl, rfl, rfl, (Nat.zero_mul size).symm, (Nat.zero_mul size).symm, ?_⟩
    intro limit hq
    have : limit ≠ 0 := by
      rintro rfl
      exact hlimit hq
    omega

/-- With a limit of zero, the loop over a query ends before the first page. -/
theorem Cursor.eval_drain_of_limit_zero {σ : Type} {conn : Connection σ} {load : Loader σ}
    {q : Query} (hindex : q.index = none) (hlimit : q.limit = some 0) (budget : Nat) (w : World σ) :
    eval ((Cursor.start q).drain conn load .empty (budget + 1)) w = (.ok .empty, w) := by
  have hreached :
      (start q).handedOut.initial.limit.any (· ≤ (start q).handedOut.fetched) = true := by
    show q.limit.any (· ≤ 0) = true
    rw [hlimit]
    rfl
  have hadvance : (start q).handedOut.advance? conn.config = none := by
    rw [advance?_of_fresh conn.config rfl, if_pos hreached]
  rw [eval_drain_succ hindex, nextPage_eq, hadvance]
  rfl

/-- All records are read by the loop over the prepared query. -/
theorem Connection.allWith_eq_drain {σ : Type} (conn : Connection σ) (load : Loader σ)
    {q p : Query} (hp : q.prepare conn.catalog = .ok p) :
    conn.allWith load q = (Cursor.start p).drain conn load .empty conn.pageBudget := by
  have hcursor : Cursor.of conn.catalog q = .ok (Cursor.start p) := by
    rw [Cursor.of, hp]
    rfl
  rw [allWith, hcursor]
  rfl

/-- A query that cannot be prepared is not sent. -/
theorem Connection.eval_allWith_of_error {σ : Type} (conn : Connection σ) (load : Loader σ)
    {q : Query} {e : Error} (h : q.prepare conn.catalog = .error e) (w : World σ) :
    eval (conn.allWith load q) w = (.error e, w) := by
  have hcursor : Cursor.of conn.catalog q = .error e := by
    rw [Cursor.of, h]
    rfl
  rw [allWith, hcursor]
  rfl

/-- All records are read by the loop over the query, where no relation is joined or loaded. -/
theorem Connection.all_eq_drain {σ : Type} (conn : Connection σ) {q : Query}
    (hpending : q.pending = []) (heager : q.eager = []) :
    conn.all q = (Cursor.start q).drain conn pure .empty conn.pageBudget := by
  rw [all, conn.loader_eq_pure heager,
    conn.allWith_eq_drain pure (Query.prepare_eq_self conn.catalog hpending)]

/-- Where the rows that match hold some records, all records of the query are the window of these,
numbered in order. -/
theorem StoredRead.eval_all {conn : Connection Store} {s : Store.Settings} {q : Query} {t : Schema}
    {d : Descriptor} {rows : List Json} {size : Nat} {w : World Store} {found : List Model}
    (h : StoredRead conn s q t d rows size) (hw : w.Serves d.uri rows)
    (hfound : Model.ofRows? conn.catalog conn.config.strict t
      (Store.matching rows d.clauses.pairs) = .ok found)
    (hbudget : q.requestCount size (Store.matching rows d.clauses.pairs).length < conn.pageBudget) :
    ∃ w', eval (conn.all q) w = (.ok (.numbered (q.window found)), w') ∧
      w'.sent.length =
        w.sent.length + q.requestCount size (Store.matching rows d.clauses.pairs).length := by
  have hcount := Model.length_of_ofRows? hfound
  rw [conn.all_eq_drain h.pending h.eager]
  by_cases hzero : q.limit = some 0
  · have hnone : q.window found = [] := by
      rw [Query.window, hzero]
      rfl
    have hrequests : q.requestCount size (Store.matching rows d.clauses.pairs).length = 0 := by
      rw [Query.requestCount, if_pos hzero]
    obtain ⟨budget, hbudget⟩ : ∃ b, conn.pageBudget = b + 1 := ⟨conn.pageBudget - 1, by omega⟩
    refine ⟨w, ?_, by omega⟩
    rw [hbudget, hnone]
    exact Cursor.eval_drain_of_limit_zero h.index hzero budget w
  · have hrequests : q.requestCount size (Store.matching rows d.clauses.pairs).length =
        max 1 (((q.window found).length + size - 1) / size - 0) := by
      rw [Query.requestCount, if_neg hzero, Query.length_window, hcount, Nat.sub_zero]
    rw [hrequests] at hbudget ⊢
    exact h.eval_drain hfound hbudget hw (h.page_le_word hzero)
      (Cursor.start_drains h.index hzero conn.config size (q.window found))

/-- All records of a query that a store serves are those of the query's window, numbered in order,
and take as many requests as the window has pages. The budget is the bound on the rounds of the loop
that the connection was opened with. -/
theorem Connection.all_eq_window {conn : Connection Store} {s : Store.Settings} {q : Query}
    {t : Schema} {d : Descriptor} {rows : List Json} {size : Nat} {w : World Store}
    (h : StoredRead conn s q t d rows size) (hw : w.Serves d.uri rows)
    (hbudget : q.requestCount size (Store.matching rows d.clauses.pairs).length < conn.pageBudget) :
    ∃ models w',
      Model.ofRows? conn.catalog conn.config.strict t
          (q.window (Store.matching rows d.clauses.pairs)) = .ok models ∧
        eval (conn.all q) w = (.ok (.numbered models), w') ∧
        w'.sent.length =
          w.sent.length + q.requestCount size (Store.matching rows d.clauses.pairs).length := by
  have hdeclares : ∀ row ∈ Store.matching rows d.clauses.pairs, t.Declares row :=
    fun row hrow => h.declares row (List.mem_filter.mp hrow).1
  have hfound := Model.ofRows?_of_declares conn.catalog conn.config.strict hdeclares
  obtain ⟨w', heval, hsent⟩ := h.eval_all hw hfound hbudget
  exact ⟨_, w', Model.ofRows?_window hfound q, heval, hsent⟩

/-- Records with a number and a state. -/
def issues : Schema where
  typeName := "Issue"
  fields := ["id", "state"]

/-- The row of such a record. -/
def issue (id : Nat) (state : String) : Json :=
  .object [("id", .nat id), ("state", .text state)]

/-- The third to fifth of the open issues are read by two requests, in pages of two. -/
theorem Connection.all_eq_window_open_issues :
    let conn : Connection Store :=
      { catalog := [], config := {}, auth := .none, answer := Store.send {}, pageBudget := 3 }
    let q : Query :=
      { schema := some issues, condition := some (.fields [("state", .text "open")])
        limit := some 3, offset := some 2, perPage := some 2 }
    let d : Descriptor :=
      { typeName := some "Issue", uri := "issues"
        clauses :=
          { filter := some [("state", .object [("eq", .text "open")])], perPage := some 2
            page := some 2 } }
    let rows := [issue 1 "open", issue 2 "closed", issue 3 "open", issue 4 "open", issue 5 "open",
      issue 6 "open", issue 7 "open"]
    let w : World Store := { backend := Store.serve {} "issues" rows }
    (StoredRead conn {} q issues d rows 2 ∧ w.Serves d.uri rows ∧
      q.requestCount 2 (Store.matching rows d.clauses.pairs).length < conn.pageBudget) ∧
      q.window (Store.matching rows d.clauses.pairs) =
        [issue 4 "open", issue 5 "open", issue 6 "open"] ∧
      ∃ models w',
        Model.ofRows? conn.catalog conn.config.strict issues
            (q.window (Store.matching rows d.clauses.pairs)) = .ok models ∧
          eval (conn.all q) w = (.ok (.numbered models), w') ∧
          w'.sent.length =
            w.sent.length + q.requestCount 2 (Store.matching rows d.clauses.pairs).length := by
  intro conn q d rows w
  have hdeclares (id : Nat) (state : String) : issues.Declares (issue id state) :=
    ⟨_, rfl, by simp [issues, Schema.hasField]⟩
  have hread : StoredRead conn {} q issues d rows 2 :=
    { answer := rfl, pageHeaders := rfl, distinct := by decide +kernel
      schema := rfl, select := rfl, joins := rfl, pending := rfl, eager := rfl, index := rfl
      compiles := by decide +kernel
      declares := by
        simp only [rows, List.forall_mem_cons, hdeclares, true_and]
        exact nofun
      size_eq := by decide +kernel
      size_pos := by decide, size_le := by decide, size_le_store := by decide
      dvd_offset := by decide, maxPerPage_le := by decide, length_le := by decide
      end_le := by decide }
  have hserves : w.Serves d.uri rows := ⟨⟨rfl, rfl⟩, rfl, by decide +kernel⟩
  have hbudget :
      q.requestCount 2 (Store.matching rows d.clauses.pairs).length < conn.pageBudget := by
    decide +kernel
  exact ⟨⟨hread, hserves, hbudget⟩, by decide +kernel,
    Connection.all_eq_window hread hserves hbudget⟩

end RestQuery
