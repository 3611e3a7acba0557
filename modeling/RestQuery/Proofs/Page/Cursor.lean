import RestQuery.Proofs.Connection.Sends
import RestQuery.Proofs.Query.Window
import RestQuery.Query.Run

/-!
# The pages that a cursor asks for

`Cursor.nextRequest?` is the request that the next call for a page sends, told by the cursor alone;
`eval_fetch` and `run_read` tie it to what the call does. The cursors that calls lead to are
`Connection.Reachable`.

A call that fails leaves the cursor about to ask for what follows the page that failed, unless that
was a later page whose request failed: `nextPage_after_error` says exactly when the next call asks
for the same page.
-/

namespace RestQuery

open Session

namespace Cursor

variable {σ : Type} {conn : Connection σ} {load : Loader σ} {c asked : Cursor}

/-- The request for the page of the cursor's query without the credential, or why there is none. -/
def pageRequest (conn : Connection σ) (c : Cursor) : Except Error Request :=
  (c.query.describe conn.catalog conn.config []).map (·.request .get)

/-- What the next call for a page asks for, unless it asks for none. -/
def nextRequest? (conn : Connection σ) (c : Cursor) : Option (Except Error Request) :=
  (c.advance? conn.config).map (pageRequest conn)

/-! ## The run of a call -/

/-- The page is asked for by one request with the credential, if the query compiles. -/
theorem eval_fetch (conn : Connection σ) (c : Cursor) (w : World σ) :
    eval (c.fetch conn) w =
      match c.pageRequest conn with
      | .error e => (.error e, w)
      | .ok request =>
        eval (conn.execute { request with headers := conn.auth.headers w.asked })
          { w with asked := w.asked + 1 } := by
  rw [fetch, eval_bind, Connection.eval_command, pageRequest]
  cases c.query.describe conn.catalog conn.config [] <;> rfl

/-- Reading a page fails where the request does, or where the rows cannot be read. -/
theorem run_read (conn : Connection σ) (load : Loader σ) (c : Cursor) (w : World σ) :
    (c.read conn load).run w =
      match eval (c.fetch conn) w with
      | (.error e, w₁) => ((c, .error e), w₁)
      | (.ok response, w₁) =>
        let page := Page.Info.ofResponse conn.config.pageHeaders response
        let told := { c with page := some page }
        match eval (materialize conn load c.query (response.rows conn.config.envelope)) w₁ with
        | (.error e, w₂) => ((told, .error e), w₂)
        | (.ok models, w₂) =>
          (((told.deliver page models).1, .ok (told.deliver page models).2), w₂) := by
  rw [read, run_bind, run_run]
  rcases eval (c.fetch conn) w with ⟨_ | response, w₁⟩
  · rfl
  · dsimp only
    rw [run_bind, run_run]
    rcases eval (materialize conn load c.query (response.rows conn.config.envelope)) w₁ with
      ⟨_ | models, w₂⟩ <;> rfl

/-- A call asks for the page that the cursor moves to, or for none. -/
theorem nextPage_eq (conn : Connection σ) (load : Loader σ) (c : Cursor) :
    c.nextPage conn load =
      match c.advance? conn.config with
      | none => pure (c.exhaust, .ok none)
      | some asked => asked.read conn load := rfl

/-- Reads the page of the cursor's query: what is told of it, and its records. -/
def readPage (conn : Connection σ) (load : Loader σ) (c : Cursor) :
    Session σ (Page.Info × List Model) := do
  let response ← c.fetch conn
  let models ← materialize conn load c.query (response.rows conn.config.envelope)
  return (Page.Info.ofResponse conn.config.pageHeaders response, models)

/-- A round of the loop hands out the records in hand and reads the next page. It ends the loop if
there is no such page, or nothing to deliver of it. -/
theorem eval_drain_page (conn : Connection σ) (load : Loader σ) (records : RecordSet) (c : Cursor)
    (budget : Nat) (w : World σ) :
    eval (c.drain conn load records (budget + 1)) w =
      let handed := { c with buffer := [] }.labelAll c.buffer
      match handed.1.advance? conn.config with
      | none => (.ok (records.insertAll handed.2), w)
      | some asked =>
        match eval (asked.readPage conn load) w with
        | (.error e, after) => (.error e, after)
        | (.ok (page, models), after) =>
          let delivered := { asked with page := some page }.deliver page models
          match delivered.2 with
          | none => (.ok (records.insertAll handed.2), after)
          | some kept =>
            eval (({ delivered.1 with buffer := kept } : Cursor).drain conn load
              (records.insertAll handed.2) budget) after := by
  rw [drain]
  generalize ({ c with buffer := [] } : Cursor).labelAll c.buffer = handed
  obtain ⟨handed, rows⟩ := handed
  have hlift : eval (ExceptT.lift (handed.nextPage conn load) : Session σ _) w =
      (.ok ((handed.nextPage conn load).run w).1, ((handed.nextPage conn load).run w).2) := rfl
  show eval (ExceptT.lift (handed.nextPage conn load) >>= _) w = _
  rw [eval_bind_ok hlift, nextPage_eq]
  dsimp only
  cases handed.advance? conn.config with
  | none => rfl
  | some asked =>
    dsimp only
    rw [run_read, readPage, eval_bind]
    rcases eval (asked.fetch conn) w with ⟨e | response, w₁⟩
    · rfl
    · dsimp only
      rw [eval_bind]
      rcases eval (materialize conn load asked.query (response.rows conn.config.envelope)) w₁ with
        ⟨e | models, w₂⟩
      · rfl
      · dsimp only [eval_pure]
        generalize ({ asked with
          page := some (Page.Info.ofResponse conn.config.pageHeaders response) } : Cursor).deliver
            (Page.Info.ofResponse conn.config.pageHeaders response) models = delivered
        obtain ⟨next, _ | kept⟩ := delivered <;> rfl

/-- A round of the loop goes on with what it reads of the next page, if there is one. -/
theorem drain_page (conn : Connection σ) (load : Loader σ) (records : RecordSet) (c : Cursor)
    (budget : Nat) :
    c.drain conn load records (budget + 1) =
      let handed := { c with buffer := [] }.labelAll c.buffer
      match handed.1.advance? conn.config with
      | none => pure (records.insertAll handed.2)
      | some asked => asked.readPage conn load >>= fun (page, models) =>
        let delivered := { asked with page := some page }.deliver page models
        match delivered.2 with
        | none => pure (records.insertAll handed.2)
        | some kept => ({ delivered.1 with buffer := kept } : Cursor).drain conn load
            (records.insertAll handed.2) budget := by
  funext w
  show eval (c.drain conn load records (budget + 1)) w = eval _ w
  rw [eval_drain_page]
  dsimp only
  generalize ({ c with buffer := [] } : Cursor).labelAll c.buffer = handed
  cases handed.1.advance? conn.config with
  | none => rfl
  | some asked =>
    dsimp only
    rw [eval_bind]
    rcases eval (asked.readPage conn load) w with ⟨e | ⟨page, models⟩, after⟩
    · rfl
    · dsimp only
      split <;> rfl

/-! ## Moving to the next page -/

/-- The cursor whose query asks for another page. -/
def moved (c : Cursor) (size offset : Nat) : Cursor :=
  { c with query := c.query.withWindow size offset }

/-- The cursor once a response has told of its page. -/
def told (conn : Connection σ) (c : Cursor) (response : Response) : Cursor :=
  { c with page := some (Page.Info.ofResponse conn.config.pageHeaders response) }

/-- Before its first page a cursor stays where it is, and later moves to the page that follows. -/
theorem advance?_cases {config : Config} (h : c.advance? config = some asked) :
    c.initial.limit.any (· ≤ c.fetched) = false ∧
      ((c.state = .fresh ∧ asked = { c with state := .fetching }) ∨
        (c.state = .fetching ∧ ∃ size offset, c.nextWindow? config = some (size, offset) ∧
          asked = c.moved size offset)) := by
  unfold advance? at h
  split at h
  · cases h
  rename_i hexhausted
  split at h
  · cases h
  rename_i hlimit
  refine ⟨by simpa using hlimit, ?_⟩
  split at h
  · rename_i hfresh
    exact .inl ⟨hfresh, (Option.some.inj h).symm⟩
  · rename_i hfresh
    obtain ⟨⟨size, offset⟩, hwindow, rfl⟩ := Option.map_eq_some_iff.mp h
    have hfetching : c.state = .fetching := by
      cases hstate : c.state <;> simp_all
    exact .inr ⟨hfetching, size, offset, hwindow, rfl⟩

/-- Before its first page, a cursor asks for that one unless it has reached its limit. -/
theorem advance?_of_fresh (config : Config) (hstate : c.state = .fresh) :
    c.advance? config =
      if c.initial.limit.any (· ≤ c.fetched) then none else some { c with state := .fetching } := by
  have hready : c.state ≠ .exhausted := by
    rw [hstate]
    decide
  rw [advance?, if_neg hready, if_pos hstate]

/-- After its first page, a cursor below its limit moves as the last response tells. -/
theorem advance?_of_fetching (config : Config) (hstate : c.state = .fetching)
    (hlimit : c.initial.limit.any (· ≤ c.fetched) = false) :
    c.advance? config =
      (c.nextWindow? config).map fun (size, offset) => c.moved size offset := by
  have hready : c.state ≠ .exhausted ∧ c.state ≠ .fresh := by
    rw [hstate]
    exact ⟨nofun, nofun⟩
  have hopen : ¬ c.initial.limit.any (· ≤ c.fetched) = true := by
    rw [hlimit]
    exact Bool.false_ne_true
  rw [advance?, if_neg hready.1, if_neg hopen, if_neg hready.2]
  rfl

/-- A cursor that has moved, and was told nothing since, would move to the same page again. -/
theorem nextWindow?_moved {config : Config} {size offset : Nat}
    (h : c.nextWindow? config = some (size, offset)) :
    (c.moved size offset).nextWindow? config = some (size, offset) := by
  simp only [nextWindow?, Option.bind_eq_bind, Option.bind_eq_some_iff] at h ⊢
  obtain ⟨page, hpage, next, hnext, heq⟩ := h
  obtain ⟨rfl, rfl⟩ := Prod.mk.inj (Option.some.inj heq)
  -- The size is either told by the response, or now the query's own.
  rcases page with ⟨_ | size, current, count, total⟩
  · exact ⟨_, hpage, next, hnext, rfl⟩
  · exact ⟨_, hpage, next, hnext, rfl⟩

/-- A cursor that asks for a later page asks for the same one again while nothing is told. -/
theorem advance?_asked {config : Config} (h : c.advance? config = some asked)
    (hstate : c.state = .fetching) : asked.advance? config = some asked := by
  obtain ⟨hlimit, ⟨hfresh, -⟩ | ⟨-, size, offset, hwindow, rfl⟩⟩ := advance?_cases h
  · rw [hstate] at hfresh
    cases hfresh
  · rw [advance?_of_fetching config (c := c.moved size offset) hstate hlimit,
      nextWindow?_moved hwindow]
    rfl

/-! ## The cursors that calls lead to -/

/-- A call that asked for a page leaves the cursor behind its first page. -/
theorem state_read (hstate : c.state ≠ .fresh) (w : World σ) :
    ((c.read conn load).run w).1.1.state ≠ .fresh := by
  rw [run_read]
  rcases eval (c.fetch conn) w with ⟨_ | response, w₁⟩
  · exact hstate
  · dsimp only
    rcases eval (materialize conn load c.query (response.rows conn.config.envelope)) w₁ with
      ⟨_ | models, w₂⟩
    · exact hstate
    · dsimp only [deliver]
      split
      · exact nofun
      · exact hstate

/-- The cursor that asks for a page is behind its first page. -/
theorem state_asked {config : Config} (h : c.advance? config = some asked) :
    asked.state = .fetching := by
  obtain ⟨-, ⟨-, rfl⟩ | ⟨hstate, size, offset, -, rfl⟩⟩ := advance?_cases h
  · rfl
  · exact hstate

/-- A call leaves the cursor behind its first page, whatever becomes of it. -/
theorem state_nextPage (conn : Connection σ) (load : Loader σ) (c : Cursor) (w : World σ) :
    ((c.nextPage conn load).run w).1.1.state ≠ .fresh := by
  rw [nextPage_eq]
  cases hasked : c.advance? conn.config with
  | none => exact nofun
  | some asked =>
    have hstate : asked.state ≠ .fresh := by
      rw [state_asked hasked]
      exact nofun
    exact state_read hstate w

/-- Taking a record out of the cursor's hands leaves its place among the pages alone. -/
theorem place_takeBuffered? {c' : Cursor} {row : RowKey × Model}
    (h : c.takeBuffered? = some (c', row)) : c'.state = c.state ∧ c'.page = c.page := by
  have hlabel : ∀ (d : Cursor) (m : Model),
      (d.label m).1.state = d.state ∧ (d.label m).1.page = d.page := by
    intro d m
    unfold label
    split <;> exact ⟨rfl, rfl⟩
  unfold takeBuffered? at h
  split at h
  · cases h
  · cases h
    exact hlabel _ _

/-- Asking for a record leaves the cursor behind its first page, unless one was in its hands. -/
theorem state_nextRow (conn : Connection σ) (load : Loader σ) (h : c.takeBuffered? = none)
    (w : World σ) : ((c.nextRow conn load).run w).1.1.state ≠ .fresh := by
  have hstate := state_nextPage conn load c w
  rw [nextRow, h]
  dsimp only
  rw [run_bind]
  generalize (c.nextPage conn load).run w = called at hstate ⊢
  obtain ⟨⟨c₁, _ | _ | models⟩, w₁⟩ := called
  · exact hstate
  · exact hstate
  · dsimp only
    cases hrow : { c₁ with buffer := models }.takeBuffered? with
    | none => exact hstate
    | some entry =>
      obtain ⟨c₂, row⟩ := entry
      show c₂.state ≠ .fresh
      rw [(place_takeBuffered? hrow).1]
      exact hstate

end Cursor

namespace Connection

variable {σ : Type} {conn : Connection σ} {c c' : Cursor}

/-- Without relations to load, no further request is needed for a page. -/
theorem loader_eq_pure (conn : Connection σ) {q : Query} (heager : q.eager = []) :
    conn.loader q = pure := by
  unfold loader
  split
  · rw [heager]
    exact loadForest.eq_1 ..
  · rfl

/-- The states of a cursor over a connection: those in which calls leave it, in whatever world they
are made. -/
inductive Reachable (conn : Connection σ) : Cursor → Prop where
  | of {q : Query} {c : Cursor} (h : conn.cursor q = .ok c) : Reachable conn c
  | nextPage {c : Cursor} (w : World σ) (h : Reachable conn c) :
      Reachable conn ((conn.nextPage c).run w).1.1
  | nextRow {c : Cursor} (w : World σ) (h : Reachable conn c) :
      Reachable conn ((conn.nextRow c).run w).1.1
  | reset {c : Cursor} (h : Reachable conn c) : Reachable conn c.reset

/-- A cursor before its first page was told nothing. -/
theorem Reachable.page_eq_none (h : conn.Reachable c) (hfresh : c.state = .fresh) :
    c.page = none := by
  induction h with
  | of h =>
    obtain ⟨q, -, rfl⟩ := map_eq_ok_iff.mp h
    rfl
  | nextPage w h ih => exact absurd hfresh (Cursor.state_nextPage conn _ _ w)
  | @nextRow c w h ih =>
    cases hrow : c.takeBuffered? with
    | none => exact absurd hfresh (Cursor.state_nextRow conn _ hrow w)
    | some entry =>
      obtain ⟨c₁, row⟩ := entry
      have heq : ((conn.nextRow c).run w).1.1 = c₁ := by
        rw [Connection.nextRow, Cursor.nextRow, hrow]
        rfl
      rw [heq] at hfresh ⊢
      obtain ⟨hstate, hpage⟩ := Cursor.place_takeBuffered? hrow
      rw [hpage]
      exact ih (hstate ▸ hfresh)
  | reset h ih => rfl

end Connection

/-! ## After a failure -/

namespace Cursor

variable {σ : Type}

/-- Whether the request for the page of the cursor's query fails, in a world. -/
def RequestFails (conn : Connection σ) (c : Cursor) (w : World σ) : Prop :=
  ∃ e w₁, eval (c.fetch conn) w = (.error e, w₁)

/-- Whether a response tells of a page whose successor is the one that it was to bring. -/
def PointsBack (conn : Connection σ) (c : Cursor) (response : Response) : Prop :=
  ∃ size offset, (c.told conn response).nextWindow? conn.config = some (size, offset) ∧
    (c.query.withWindow size offset).pageClauses conn.config = c.query.pageClauses conn.config

variable {conn : Connection σ} {c asked : Cursor} {w : World σ}

/-- A request that was answered did not fail. -/
theorem not_requestFails {response : Response} {w₁ : World σ}
    (hfetch : eval (asked.fetch conn) w = (.ok response, w₁)) : ¬ asked.RequestFails conn w := by
  rintro ⟨e, w₂, hfails⟩
  rw [hfetch] at hfails
  cases hfails

/-- Once a response has told of its page, the page that follows is the next. -/
theorem nextRequest?_told {config : Config} (hasked : c.advance? config = some asked)
    (conn : Connection σ) (response : Response) :
    (asked.told conn response).nextRequest? conn =
      ((asked.told conn response).nextWindow? conn.config).map fun (size, offset) =>
        (asked.moved size offset).pageRequest conn := by
  have hlimit : asked.initial.limit.any (· ≤ asked.fetched) = false := by
    obtain ⟨hlimit, ⟨-, rfl⟩ | ⟨-, size, offset, -, rfl⟩⟩ := advance?_cases hasked
    · exact hlimit
    · exact hlimit
  have hstate : asked.state = .fetching := state_asked hasked
  rw [nextRequest?, advance?_of_fetching conn.config (c := asked.told conn response) hstate hlimit,
    Option.map_map]
  rfl

/-- After an answered request the next call asks for the same page exactly if the response points
back to it. -/
theorem nextRequest?_told_iff {config : Config} (hasked : c.advance? config = some asked)
    {response : Response} {w₁ : World σ}
    (hfetch : eval (asked.fetch conn) w = (.ok response, w₁)) :
    (asked.told conn response).nextRequest? conn = some (asked.pageRequest conn) ↔
      asked.PointsBack conn response := by
  -- The query compiles, since its request was sent.
  obtain ⟨d, hd⟩ : ∃ d, asked.query.describe conn.catalog conn.config [] = .ok d := by
    rw [eval_fetch, pageRequest] at hfetch
    cases hd : asked.query.describe conn.catalog conn.config [] with
    | error e =>
      rw [hd] at hfetch
      cases hfetch
    | ok d => exact ⟨d, rfl⟩
  have hrequest : asked.pageRequest conn = .ok (d.request .get) := by
    rw [pageRequest, hd]
    rfl
  rw [nextRequest?_told hasked, hrequest, Option.map_eq_some_iff]
  constructor
  · rintro ⟨⟨size, offset⟩, hwindow, hsame⟩
    exact ⟨size, offset, hwindow, (Query.request_withWindow_eq_iff hd .get).mp hsame⟩
  · rintro ⟨size, offset, hwindow, hsame⟩
    exact ⟨⟨size, offset⟩, hwindow, (Query.request_withWindow_eq_iff hd .get).mpr hsame⟩

/-- A cursor that asks for its first page, and was told nothing, asks for none after it. -/
theorem advance?_asked_of_fresh {config : Config} (hasked : c.advance? config = some asked)
    (hfresh : c.state = .fresh) (hpage : c.page = none) : asked.advance? config = none := by
  obtain ⟨hlimit, ⟨-, rfl⟩ | ⟨hfetching, -⟩⟩ := advance?_cases hasked
  · rw [advance?_of_fetching config (c := { c with state := .fetching }) rfl hlimit, nextWindow?]
    dsimp only
    rw [hpage]
    rfl
  · rw [hfresh] at hfetching
    cases hfetching

end Cursor

namespace Connection

variable {σ : Type} {conn : Connection σ} {c c' asked : Cursor}

theorem nextPage_of_advance? (hasked : c.advance? conn.config = some asked) :
    conn.nextPage c = asked.read conn (conn.loader c.query) := by
  rw [nextPage, Cursor.nextPage_eq, hasked]

/-- A call that fails has asked for a page, and leaves the cursor as it asked, or told of the page
that it could not read. -/
theorem cursor_after_error {w w' : World σ} {e : Error}
    (hfail : (conn.nextPage c).run w = ((c', .error e), w')) :
    ∃ asked, c.advance? conn.config = some asked ∧
      ((asked.RequestFails conn w ∧ c' = asked) ∨
        ∃ response w₁, eval (asked.fetch conn) w = (.ok response, w₁) ∧
          c' = asked.told conn response) := by
  rw [nextPage, Cursor.nextPage_eq] at hfail
  cases hasked : c.advance? conn.config with
  | none =>
    rw [hasked] at hfail
    cases hfail
  | some asked =>
    refine ⟨asked, rfl, ?_⟩
    simp only [hasked, Cursor.run_read] at hfail
    rcases hfetch : eval (asked.fetch conn) w with ⟨e₁ | response, w₁⟩
    · simp only [hfetch] at hfail
      cases hfail
      exact .inl ⟨⟨_, _, hfetch⟩, rfl⟩
    · refine .inr ⟨response, w₁, rfl, ?_⟩
      simp only [hfetch] at hfail
      split at hfail
      · cases hfail
        rfl
      · cases hfail

/-- What the next call does with a cursor `c'`, which a failed call has left of `c` in a world after
asking for the page of `asked`. -/
structure AfterFailure (conn : Connection σ) (c : Cursor) (w : World σ) (asked c' : Cursor) :
    Prop where
  advance : c.advance? conn.config = some asked
  /-- It asks for the same page exactly if a later page was asked for and its request failed, or a
  response points back to its own page. -/
  repeats_iff : c'.nextRequest? conn = some (asked.pageRequest conn) ↔
    (c.state = .fetching ∧ asked.RequestFails conn w) ∨
      ∃ response w₁, eval (asked.fetch conn) w = (.ok response, w₁) ∧ asked.PointsBack conn response
  /-- If the request for a later page failed, it is the call that failed over again. -/
  repeats : c.state = .fetching → asked.RequestFails conn w → conn.nextPage c' = conn.nextPage c
  /-- If the request for the first page failed, it asks for nothing and tells that there is no
  page. -/
  stops : c.state = .fresh → asked.RequestFails conn w →
    ∀ w₁, (conn.nextPage c').run w₁ = ((c'.exhaust, .ok none), w₁)
  /-- If a page was answered, and not read, it goes on to the page that follows. -/
  goesOn : ∀ {response w₁}, eval (asked.fetch conn) w = (.ok response, w₁) →
    c'.nextRequest? conn =
      ((asked.told conn response).nextWindow? conn.config).map fun (size, offset) =>
        (asked.moved size offset).pageRequest conn

/-- Where the request failed, the cursor is left as it asked. -/
theorem afterFailure_of_requestFails {w : World σ} (hreach : conn.Reachable c)
    (hasked : c.advance? conn.config = some asked) (hfails : asked.RequestFails conn w) :
    AfterFailure conn c w asked asked := by
  have hunanswered : ∀ {response w₁}, eval (asked.fetch conn) w ≠ (.ok response, w₁) :=
    fun hfetch => Cursor.not_requestFails hfetch hfails
  have hstops : c.state = .fresh → asked.advance? conn.config = none :=
    fun hfresh => Cursor.advance?_asked_of_fresh hasked hfresh (hreach.page_eq_none hfresh)
  refine ⟨hasked, ?_, fun hfetching _ => ?_, fun hfresh _ w₁ => ?_, fun hfetch => ?_⟩
  · constructor
    · intro hsame
      obtain ⟨-, ⟨hfresh, -⟩ | ⟨hfetching, -⟩⟩ := Cursor.advance?_cases hasked
      · rw [Cursor.nextRequest?, hstops hfresh] at hsame
        cases hsame
      · exact .inl ⟨hfetching, hfails⟩
    · rintro (⟨hfetching, -⟩ | ⟨response, w₁, hfetch, -⟩)
      · rw [Cursor.nextRequest?, Cursor.advance?_asked hasked hfetching]
        rfl
      · exact absurd hfetch hunanswered
  · rw [nextPage_of_advance? hasked, nextPage_of_advance? (Cursor.advance?_asked hasked hfetching)]
    -- The cursor has moved, and the relations to load are still those of the query.
    obtain ⟨-, ⟨-, rfl⟩ | ⟨-, size, offset, -, rfl⟩⟩ := Cursor.advance?_cases hasked
    · rfl
    · rfl
  · rw [nextPage, Cursor.nextPage_eq, hstops hfresh]
    rfl
  · exact absurd hfetch hunanswered

/-- Where a page was answered and not read, the cursor is left with what it was told. -/
theorem afterFailure_of_answered {w w₁ : World σ} {response : Response}
    (hasked : c.advance? conn.config = some asked)
    (hfetch : eval (asked.fetch conn) w = (.ok response, w₁)) :
    AfterFailure conn c w asked (asked.told conn response) := by
  have hanswered := Cursor.not_requestFails hfetch
  refine ⟨hasked, ?_, fun _ hfails => absurd hfails hanswered,
    fun _ hfails => absurd hfails hanswered, fun {response₂ w₂} hfetch₂ => ?_⟩
  · rw [Cursor.nextRequest?_told_iff hasked hfetch]
    constructor
    · exact fun hback => .inr ⟨response, w₁, hfetch, hback⟩
    · rintro (⟨-, hfails⟩ | ⟨response₂, w₂, hfetch₂, hback⟩)
      · exact absurd hfails hanswered
      · rw [hfetch] at hfetch₂
        cases hfetch₂
        exact hback
  · rw [hfetch] at hfetch₂
    cases hfetch₂
    exact Cursor.nextRequest?_told hasked conn response

/-- A call that fails has asked for a page, and what the next call does is told by how it failed:
only the request for a later page is made again. -/
theorem nextPage_after_error {w w' : World σ} {e : Error} (hreach : conn.Reachable c)
    (hfail : (conn.nextPage c).run w = ((c', .error e), w')) :
    ∃ asked, AfterFailure conn c w asked c' := by
  obtain ⟨asked, hasked, ⟨hfails, rfl⟩ | ⟨response, w₁, hfetch, rfl⟩⟩ := cursor_after_error hfail
  · exact ⟨c', afterFailure_of_requestFails hreach hasked hfails⟩
  · exact ⟨asked, afterFailure_of_answered hasked hfetch⟩

/-- A first page that no answer came for. -/
theorem nextPage_after_error_unanswered :
    let conn : Connection Unit :=
      { catalog := [], config := {}, auth := .none, pageBudget := 1
        answer := fun _ w => (.error (.transport "connection reset"), w) }
    let w : World Unit := { backend := () }
    let c : Cursor :=
      { query := .of { typeName := "Track", fields := ["id"] }, initial := ⟨none, none, none⟩ }
    let c' : Cursor := { c with state := .fetching }
    (conn.Reachable c ∧ (conn.nextPage c).run w =
        ((c', .error (.transport "connection reset")), ((conn.nextPage c).run w).2)) ∧
      ∃ asked, AfterFailure conn c w asked c' := by
  intro conn w c c'
  have hreach : conn.Reachable c := .of (q := c.query) rfl
  have hfail : (conn.nextPage c).run w =
      ((c', .error (.transport "connection reset")), ((conn.nextPage c).run w).2) := rfl
  exact ⟨⟨hreach, hfail⟩, nextPage_after_error hreach hfail⟩

end Connection

end RestQuery
