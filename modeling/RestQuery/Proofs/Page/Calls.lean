import RestQuery.Proofs.Connection.Sends
import RestQuery.Proofs.Page.Cursor

/-!
# Calls for pages

`Connection.Calls` lists the calls for the next page of a cursor that are made one after another,
none of which fails. What one call can do is told by `nextPage_cases`: it ends, at no cost, or it
reads one page and delivers what the limit leaves of it. From that follows, by induction on the
calls and whatever the server answers, that a cursor counts what it delivers (`Calls.counted`), that
it stays exhausted (`nextPage_of_exhausted`), and that it asks for pages of its query only
(`Calls.frame`, `Calls.adds`).
-/

namespace RestQuery

open Session

/-- The records that the rows of one response hold, with repetitions left out where the query joins
relations. -/
def Query.modelsOf (g : Catalog) (strict : Bool) (q : Query) (rows : List Json) :
    Except Error (List Model) :=
  if rows.isEmpty then .ok [] else q.schema?.bind fun s => q.readRows g strict s rows

/-- A query for another page reads the same records from the same rows. -/
theorem Query.IsPageOf.modelsOf_eq {q' q : Query} (h : q'.IsPageOf q) (g : Catalog)
    (strict : Bool) : q'.modelsOf g strict = q.modelsOf g strict := by
  obtain rfl | ⟨size, offset, rfl⟩ := h
  · rfl
  · rfl

/-- A query that does not expand relations reads its rows one by one. -/
theorem Query.modelsOf_of_no_joins (g : Catalog) (strict : Bool) {q : Query} {t : Schema}
    (hschema : q.schema = some t) (hjoins : q.joins = []) (rows : List Json) :
    q.modelsOf g strict rows = Model.ofRows? g strict t rows := by
  unfold modelsOf readRows schema?
  rw [hschema, hjoins]
  cases rows with
  | nil =>
    rw [Model.ofRows?]
    rfl
  | cons row rest =>
    show (Model.ofRows? g strict t (row :: rest) >>= pure) = _
    exact bind_pure _

/-- Repetitions are dropped where relations are joined and the records are not keyed. -/
theorem Query.dropsRepeated_iff {q : Query} :
    (!q.joins.isEmpty && q.index.isNone) = true ↔ q.joins ≠ [] ∧ q.index = none := by
  rw [Bool.and_eq_true, Bool.not_eq_true', List.isEmpty_eq_false_iff, Option.isNone_iff_eq_none]

namespace Cursor

variable {σ : Type} {conn : Connection σ} {c asked : Cursor}

/-- The records of a response are read from its rows, and then loaded onto. -/
theorem eval_materialize_eq (conn : Connection σ) (load : Loader σ) (q : Query) (rows : List Json)
    (w : World σ) :
    eval (materialize conn load q rows) w =
      match q.modelsOf conn.catalog conn.config.strict rows with
      | .error e => (.error e, w)
      | .ok models => if rows.isEmpty then (.ok models, w) else eval (load models) w := by
  unfold materialize Query.modelsOf
  by_cases hrows : rows.isEmpty
  · rw [if_pos hrows, if_pos hrows]
    dsimp only
    rw [if_pos hrows]
    rfl
  rw [if_neg hrows, if_neg hrows]
  simp only [eval_bind, eval_lift]
  cases q.schema? with
  | error e => rfl
  | ok s =>
    dsimp only [Except.bind]
    cases q.readRows conn.catalog conn.config.strict s rows with
    | error e => rfl
    | ok models =>
      dsimp only
      rw [if_neg hrows]

/-- Without relations to load, a page costs nothing but its request. -/
theorem eval_materialize_pure (conn : Connection σ) (q : Query) (rows : List Json) (w : World σ) :
    eval (materialize conn pure q rows) w =
      (q.modelsOf conn.catalog conn.config.strict rows, w) := by
  rw [eval_materialize_eq]
  cases q.modelsOf conn.catalog conn.config.strict rows with
  | error e => rfl
  | ok models => exact ite_self _

/-- A cursor that moves on asks for a page of its query, and has delivered no more for it. -/
theorem advance?_frame {config : Config} (h : c.advance? config = some asked) :
    asked.query.IsPageOf c.query ∧ asked.initial = c.initial ∧ asked.fetched = c.fetched := by
  obtain ⟨-, ⟨-, rfl⟩ | ⟨-, size, offset, -, rfl⟩⟩ := advance?_cases h
  · exact ⟨.inl rfl, rfl, rfl⟩
  · exact ⟨.inr ⟨size, offset, rfl⟩, rfl, rfl⟩

/-- Of a page, no more is kept than the limit leaves. -/
theorem fetched_add_keep_le {limit : Nat} (hlimit : c.initial.limit = some limit)
    (hfetched : c.fetched ≤ limit) (models : List Model) :
    c.fetched + (c.keep models).length ≤ limit := by
  rw [keep, hlimit]
  dsimp only
  rw [List.length_take]
  omega

/-- A page delivers what is kept of it. -/
theorem getD_deliver (page : Page.Info) (models : List Model) :
    (c.deliver page models).2.getD [] = c.keep models := by
  show (if (c.keep models).isEmpty then none else some (c.keep models)).getD [] = _
  split
  · rename_i hempty
    exact (List.isEmpty_iff.mp hempty).symm
  · rfl

/-- A page of which nothing is delivered is the last. -/
theorem isLast_of_deliver_none {page : Page.Info} {models : List Model}
    (h : (c.deliver page models).2 = none) : c.isLast page models = true := by
  have hempty : (c.keep models).isEmpty = true := by
    rw [← getD_deliver page models, h]
    rfl
  rw [isLast, hempty, Bool.or_true, Bool.true_or]

/-- The last page leaves the cursor exhausted, and any other as it was. -/
theorem state_deliver (page : Page.Info) (models : List Model) :
    (c.deliver page models).1.state =
      if c.isLast page models then .exhausted else c.state := rfl

end Cursor

namespace Connection

variable {σ : Type} {conn : Connection σ} {c c' c'' : Cursor} {w w' w'' : World σ}
  {result : Option (List Model)} {results : List (Option (List Model))}

/-! ## One call -/

/-- A call that does not fail ends, at no cost, or it reads a page and delivers what the limit
leaves of it. -/
theorem nextPage_cases (h : (conn.nextPage c).run w = ((c', .ok result), w')) :
    (c.advance? conn.config = none ∧ c' = c.exhaust ∧ result = none ∧ w' = w) ∨
      ∃ asked response models w₁, c.advance? conn.config = some asked ∧
        eval (asked.fetch conn) w = (.ok response, w₁) ∧
        eval (Cursor.materialize conn (conn.loader c.query) asked.query
          (response.rows conn.config.envelope)) w₁ = (.ok models, w') ∧
        (asked.told conn response).deliver
          (Page.Info.ofResponse conn.config.pageHeaders response) models = (c', result) := by
  rw [nextPage, Cursor.nextPage_eq] at h
  cases hasked : c.advance? conn.config with
  | none =>
    rw [hasked] at h
    cases h
    exact .inl ⟨rfl, rfl, rfl, rfl⟩
  | some asked =>
    simp only [hasked, Cursor.run_read] at h
    rcases hfetch : eval (asked.fetch conn) w with ⟨e | response, w₁⟩
    · simp only [hfetch] at h
      cases h
    · simp only [hfetch] at h
      split at h
      · cases h
      · rename_i models w₂ hmodels
        cases h
        exact .inr ⟨asked, response, models, w₁, rfl, hfetch, hmodels, rfl⟩

/-- An exhausted cursor asks for nothing and stays as it is. -/
theorem nextPage_of_exhausted (conn : Connection σ) (hstate : c.state = .exhausted) (w : World σ) :
    (conn.nextPage c).run w = ((c, .ok none), w) := by
  have hadvance : c.advance? conn.config = none := if_pos hstate
  have hexhaust : c.exhaust = c := by
    rw [Cursor.exhaust, ← hstate]
  rw [nextPage, Cursor.nextPage_eq, hadvance]
  exact congrArg (fun d : Cursor => ((d, Except.ok none), w)) hexhaust

/-- A call that returns no page leaves the cursor exhausted. -/
theorem state_of_nextPage_none (h : (conn.nextPage c).run w = ((c', .ok none), w')) :
    c'.state = .exhausted := by
  obtain ⟨-, rfl, -, -⟩ | ⟨asked, response, models, w₁, -, -, -, hdeliver⟩ := nextPage_cases h
  · rfl
  · have hlast := Cursor.isLast_of_deliver_none (congrArg Prod.snd hdeliver)
    rw [← congrArg (fun delivered => delivered.1.state) hdeliver]
    exact if_pos hlast

/-- A call leaves the limit alone, and moves the query to another of its pages at most, also where
it fails. -/
theorem frame_of_nextPage {outcome : Except Error (Option (List Model))}
    (h : (conn.nextPage c).run w = ((c', outcome), w')) :
    c'.query.IsPageOf c.query ∧ c'.initial = c.initial := by
  rw [nextPage, Cursor.nextPage_eq] at h
  cases hasked : c.advance? conn.config with
  | none =>
    rw [hasked] at h
    cases h
    exact ⟨.inl rfl, rfl⟩
  | some asked =>
    obtain ⟨hquery, hinitial, -⟩ := Cursor.advance?_frame hasked
    -- Of the cursor that was moved, a response changes neither the query nor the limit.
    simp only [hasked, Cursor.run_read] at h
    split at h
    · cases h
      exact ⟨hquery, hinitial⟩
    · split at h
      · cases h
        exact ⟨hquery, hinitial⟩
      · cases h
        exact ⟨hquery, hinitial⟩

/-- A call counts what it delivers, and delivers no more than the limit leaves. -/
theorem fetched_of_nextPage (h : (conn.nextPage c).run w = ((c', .ok result), w')) :
    c'.fetched = c.fetched + (result.getD []).length ∧
      ∀ limit, c.initial.limit = some limit → c.fetched ≤ limit → c'.fetched ≤ limit := by
  obtain ⟨-, rfl, rfl, -⟩ | ⟨asked, response, models, w₁, hasked, -, -, hdeliver⟩ :=
    nextPage_cases h
  · exact ⟨rfl, fun _ _ hle => hle⟩
  · obtain ⟨-, hinitial, hfetched⟩ := Cursor.advance?_frame hasked
    obtain rfl : _ = c' := congrArg Prod.fst hdeliver
    obtain rfl : _ = result := congrArg Prod.snd hdeliver
    rw [← hinitial, ← hfetched]
    refine ⟨?_, fun limit hlimit hle =>
      Cursor.fetched_add_keep_le (c := asked.told conn response) hlimit hle models⟩
    rw [Cursor.getD_deliver]
    rfl

/-- The requests for the pages of a query have the path of the query and all of its pairs, but for
those that tell the page. -/
theorem sends_fetch {q : Query} {d : Descriptor} (hquery : c.query.IsPageOf q)
    (hd : q.describe conn.catalog conn.config [] = .ok d) :
    (c.fetch conn).Sends fun r => r.method = .get ∧ r.path = d.uri ∧ ∃ perPage page,
      r.query = d.clauses.fixedPairs ++ Clauses.pair "per-page" perPage ++
        Clauses.pair "page" page := by
  obtain ⟨perPage, page, hdescribe⟩ := hquery.describe_eq conn.catalog conn.config
  rw [hd] at hdescribe
  intro w
  rw [Cursor.eval_fetch, Cursor.pageRequest, hdescribe]
  obtain ⟨more, hmore, hall⟩ := sends_execute conn
    { (Descriptor.request { d with
        clauses := { d.clauses with perPage := perPage, page := page } } .get) with
      headers := conn.auth.headers w.asked } { w with asked := w.asked + 1 }
  refine ⟨more, hmore, fun s hs => ?_⟩
  obtain ⟨headers, hr⟩ := hall s hs
  rw [hr]
  exact ⟨rfl, rfl, _, _, Clauses.pairs_eq_append _⟩

/-! ## Any number of calls -/

/-- Calls for the next page of a cursor from a world, one after another and none with a failure:
what they return, and the cursor and the world after them. -/
inductive Calls (conn : Connection σ) (c : Cursor) (w : World σ) :
    List (Option (List Model)) → Cursor → World σ → Prop where
  | nil : Calls conn c w [] c w
  | call {results : List (Option (List Model))} {c' c'' : Cursor} {w' w'' : World σ}
      {result : Option (List Model)} (h : Calls conn c w results c' w')
      (hcall : (conn.nextPage c').run w' = ((c'', .ok result), w'')) :
      Calls conn c w (results ++ [result]) c'' w''

namespace Calls

/-- The query stays the same but for the page, and the limit stays. -/
theorem frame (h : conn.Calls c w results c' w') :
    c'.query.IsPageOf c.query ∧ c'.initial = c.initial := by
  induction h with
  | nil => exact ⟨.inl rfl, rfl⟩
  | call h hcall ih =>
    obtain ⟨hquery, hinitial⟩ := frame_of_nextPage hcall
    exact ⟨hquery.trans ih.1, hinitial.trans ih.2⟩

/-- A cursor counts the records that it delivers, and these are never more than its limit. -/
theorem counted (h : conn.Calls c w results c' w') :
    c'.fetched = c.fetched + (results.flatMap (·.getD [])).length ∧
      ∀ limit, c.initial.limit = some limit → c.fetched ≤ limit → c'.fetched ≤ limit := by
  induction h with
  | nil => exact ⟨rfl, fun _ _ hle => hle⟩
  | @call results c₁ c₂ w₁ w₂ result h hcall ih =>
    obtain ⟨hcount, hlimit⟩ := fetched_of_nextPage hcall
    rw [h.frame.2] at hlimit
    refine ⟨?_, fun limit hq hle => hlimit limit hq (ih.2 limit hq hle)⟩
    rw [hcount, ih.1, List.flatMap_append, List.length_append, List.flatMap_singleton,
      Nat.add_assoc]

/-- All that is sent for the pages of a query without relations to load are requests with the path
of the query and all of its pairs, but for those that tell the page. -/
theorem adds (h : conn.Calls c w results c' w') (heager : c.query.eager = []) {d : Descriptor}
    (hd : c.query.describe conn.catalog conn.config [] = .ok d) :
    w.Adds (fun r => r.method = .get ∧ r.path = d.uri ∧ ∃ perPage page,
      r.query = d.clauses.fixedPairs ++ Clauses.pair "per-page" perPage ++
        Clauses.pair "page" page) w' := by
  induction h with
  | nil => exact World.adds_of_sent_eq rfl
  | @call results c₁ c₂ w₁ w₂ result h hcall ih =>
    refine ih.trans ?_
    obtain ⟨-, -, -, rfl⟩ | ⟨asked, response, models, w', hasked, hfetch, hmodels, -⟩ :=
      nextPage_cases hcall
    · exact World.adds_of_sent_eq rfl
    · have hquery := h.frame.1
      rw [conn.loader_eq_pure (hquery.reads.2.2.2.trans heager), Cursor.eval_materialize_pure]
        at hmodels
      obtain rfl : w' = w₂ := congrArg Prod.snd hmodels
      have hsent := sends_fetch ((Cursor.advance?_frame hasked).1.trans hquery) hd w₁
      rw [hfetch] at hsent
      exact hsent

end Calls

end Connection

end RestQuery
