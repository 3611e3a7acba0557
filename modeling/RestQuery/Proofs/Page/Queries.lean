import RestQuery.Proofs.Page.LoadLog
import RestQuery.Proofs.Query.Returns

/-!
# The queries for relations that are loaded

Loading the relations of a page sends requests, and those are the requests of a log in which no
relation is queried more than once for one batch of records (`Connection.materialize_queries`). So a
relation of the query's own type is queried once. One that is named behind others is queried for
every batch that these lead to: for the records that came with a batch, and for those of each page
that was read. It is queried once, too, as long as no batch has a relation loaded for some of its
records only and every query has one page.

The server is assumed to tell no failure that passes (`Connection.AnswersAtOnce`), so that every
request is sent once. Its answers are those of the log (`Connection.Tells`). `Session.Logs` says of
a session what its log is, and has a rule for sequences; the logs of the loop over the pages of a
related query (`Cursor.logs_drain`) and of the loading of trees of relations
(`Connection.logs_loadForest`) are put together by it.
-/

namespace RestQuery

open Session RelationTree Model LoadLog

variable {σ α β : Type}

/-- The requests that reached the backend. -/
def World.requests (w : World σ) : List Request := w.sent.map Sent.request

/-- A server that tells no failure that passes while its state has a property, which it keeps. -/
structure Connection.AnswersAtOnce (conn : Connection σ) (P : σ → Prop) : Prop where
  lasting : ∀ {request : Request} {st : σ} {e : Error}, P st →
    (conn.answer request st).1.bind Response.check = .error e → e.isTransient = false
  keeps : ∀ (request : Request) {st : σ}, P st → P (conn.answer request st).2

/-! ## Logs of sessions -/

/-- Whether a server tells the answers of a log one after another, and goes on from one state to
another meanwhile. -/
def Connection.Tells (conn : Connection σ) : σ → LoadLog → σ → Prop
  | st, [], after => after = st
  | st, .batch _ _ :: rest, after => conn.Tells st rest after
  | st, .request _ r answer :: rest, after =>
    answer = (conn.answer r st).1 ∧ conn.Tells (conn.answer r st).2 rest after

/-- The answers of logs that follow one another are told one after another. -/
theorem Connection.Tells.append {conn : Connection σ} {log log' : LoadLog} {st after last : σ}
    (h : conn.Tells st log after) (h' : conn.Tells after log' last) :
    conn.Tells st (log ++ log') last := by
  induction log generalizing st with
  | nil =>
    obtain rfl : after = st := h
    exact h'
  | cons e rest ih =>
    cases e with
    | batch => exact ih h
    | request => exact ⟨h.1, ih h.2⟩

/-- What is told below a relation is told at it. -/
theorem Connection.Tells.under {conn : Connection σ} {log : LoadLog} {st after : σ}
    (h : conn.Tells st log after) (name : String) :
    conn.Tells st (log.map (·.under name)) after := by
  induction log generalizing st with
  | nil => exact h
  | cons e rest ih =>
    cases e with
    | batch => exact ih h
    | request => exact ⟨h.1, ih h.2⟩

/-- Whether the requests of a log are sent between two worlds, and answered as it tells. -/
structure Connection.Logged (conn : Connection σ) (log : LoadLog) (w after : World σ) : Prop where
  requests : after.requests = w.requests ++ log.filterMap LoadEvent.request?
  tells : conn.Tells w.backend log after.backend

namespace Connection.Logged

variable {conn : Connection σ} {log log' : LoadLog} {w after last : World σ}

theorem nil : conn.Logged [] w w := ⟨(List.append_nil _).symm, rfl⟩

theorem append (h : conn.Logged log w after) (h' : conn.Logged log' after last) :
    conn.Logged (log ++ log') w last where
  requests := by
    rw [h'.requests, h.requests, List.filterMap_append, List.append_assoc]
  tells := h.tells.append h'.tells

/-- The log of loading relations onto some records is seen from those that have them. -/
theorem onto_under (h : conn.Logged log w after) (models : List Model) (name : String) :
    conn.Logged ((onto models log).map (·.under name)) w after where
  requests := by
    rw [List.filterMap_map, h.requests]
    exact congrArg (w.requests ++ List.filterMap · (onto models log))
      (funext (LoadEvent.request?_under name)).symm
  tells := h.tells.under name

end Connection.Logged

namespace Session

variable {conn : Connection σ}

/-- Whether what a session sends is in a log, which may depend on the outcome. -/
def Logs (conn : Connection σ) (P : σ → Prop) (L : Except Error α → LoadLog → Prop)
    (a : Session σ α) : Prop :=
  ∀ w : World σ, P w.backend → P (eval a w).2.backend ∧ ∃ log, L (eval a w).1 log ∧
    conn.Logged log w (eval a w).2

variable {P : σ → Prop} {L : Except Error α → LoadLog → Prop} {N : Except Error β → LoadLog → Prop}

theorem logs_pure {x : α} (h : L (.ok x) []) : (pure x : Session σ α).Logs conn P L :=
  fun _ hw => ⟨hw, [], h, .nil⟩

theorem logs_lift {x : Except Error α} (h : L x []) : (liftM x : Session σ α).Logs conn P L := by
  intro w hw
  rw [eval_lift]
  exact ⟨hw, [], h, .nil⟩

theorem logs_throw {e : Error} (h : L (.error e) []) : (throw e : Session σ α).Logs conn P L :=
  fun _ hw => ⟨hw, [], h, .nil⟩

theorem Logs.mono {a : Session σ α} {M : Except Error α → LoadLog → Prop} (h : a.Logs conn P L)
    (hLM : ∀ outcome log, L outcome log → M outcome log) : a.Logs conn P M := by
  intro w hw
  obtain ⟨hP, log, hlog, hlogged⟩ := h w hw
  exact ⟨hP, log, hLM _ _ hlog, hlogged⟩

/-- What a session returns is known besides its log. -/
theorem Logs.returning {a : Session σ α} (h : a.Logs conn P L) {Q : α → Prop}
    (hret : a.Returns Q) :
    a.Logs conn P fun outcome log => L outcome log ∧ ∀ x, outcome = .ok x → Q x := by
  intro w hw
  obtain ⟨hP, log, hlog, hlogged⟩ := h w hw
  refine ⟨hP, log, ⟨hlog, fun x hx => hret w (eval a w).2 x ?_⟩, hlogged⟩
  rw [← hx]

/-- The log of a sequence is that of its first part, if it ends there, and else those of both parts
in order. -/
theorem Logs.bind {a : Session σ α} {f : α → Session σ β} (ha : a.Logs conn P L)
    (hstop : ∀ e log, L (.error e) log → N (.error e) log)
    (hf : ∀ x log, L (.ok x) log → (f x).Logs conn P fun outcome log' => N outcome (log ++ log')) :
    (a >>= f).Logs conn P N := by
  intro w hw
  obtain ⟨hP, log, hlog, hlogged⟩ := ha w hw
  rw [eval_bind]
  rcases heval : eval a w with ⟨e | x, after⟩
  · rw [heval] at hP hlog hlogged
    exact ⟨hP, log, hstop e log hlog, hlogged⟩
  · rw [heval] at hP hlog hlogged
    obtain ⟨hP', log', hlog', hlogged'⟩ := hf x log hlog after hP
    exact ⟨hP', log ++ log', hlog', hlogged.append hlogged'⟩

end Session

/-! ## Requests that are sent once -/

/-- An answer that is no failure is told by the server, and its status is that of no failure. -/
theorem Response.eq_of_bind_check {answer : Except Error Response} {r : Response}
    (h : answer.bind check = .ok r) : answer = .ok r ∧ r.check = .ok r := by
  cases answer with
  | error e => cases h
  | ok told =>
    have hcheck : told.check = .ok r := h
    obtain rfl : told = r := by
      unfold check at hcheck
      split at hcheck
      · exact Except.ok.inj hcheck
      · cases hcheck
    exact ⟨rfl, hcheck⟩

namespace Connection.AnswersAtOnce

variable {conn : Connection σ} {P : σ → Prop} {w : World σ}

/-- A request is sent once, or not at all over a connection that is cancelled. What the server tells
is the outcome, unless its status says otherwise. -/
theorem logs_execute (h : conn.AnswersAtOnce P) (request : Request) (place : List String) :
    (conn.execute request).Logs conn P fun outcome log =>
      (∃ e, outcome = .error e) ∧ log = [] ∨
        ∃ headers answer, outcome = answer.bind Response.check ∧
          log = [.request place { request with headers := headers } answer] := by
  intro w hw
  cases hlive : w.cancelled with
  | true =>
    obtain ⟨asked, heval⟩ := conn.eval_execute_of_cancelled request hlive
    rw [heval]
    exact ⟨hw, [], .inl ⟨⟨_, rfl⟩, rfl⟩, (List.append_nil _).symm, rfl⟩
  | false =>
    obtain ⟨asked, heval⟩ := Connection.eval_execute conn request w
    obtain ⟨headers, hheaders⟩ := conn.authorized_eq request w
    let sent : Request := conn.authorized request w
    let w₁ : World σ := { w with asked := asked, lastResponse := none }
    -- No failure is one that passes, so there is no second attempt.
    have hnone : conn.waitAfter? (conn.trial sent w₁) 0 0 = none :=
      Connection.waitAfter?_eq_none (t := conn.trial sent w₁) (fun e he => h.lasting hw he) 0 0
    rw [heval, Connection.eval_attempt_last (w := w₁) hlive hnone]
    refine ⟨h.keeps sent hw, [.request place sent (conn.answer sent w.backend).1],
      .inr ⟨headers, _, rfl, ?_⟩, List.map_append, rfl, rfl⟩
    show [LoadEvent.request place (conn.authorized request w) _] = _
    rw [hheaders]
    rfl

/-- The page of a cursor's query is asked for by one request, unless it cannot be asked for. -/
theorem logs_fetch (h : conn.AnswersAtOnce P) (c : Cursor) (place : List String) :
    (c.fetch conn).Logs conn P fun outcome log => (∃ e, outcome = .error e) ∧ log = [] ∨
      ∃ d headers answer, c.query.describe conn.catalog conn.config [] = .ok d ∧
        outcome = answer.bind Response.check ∧
        log = [.request place { d.request .get with headers := headers } answer] := by
  intro w hw
  rw [Cursor.eval_fetch, Cursor.pageRequest]
  cases hd : c.query.describe conn.catalog conn.config [] with
  | error e => exact ⟨hw, [], .inl ⟨⟨e, rfl⟩, rfl⟩, .nil⟩
  | ok d =>
    obtain ⟨hP, log, hlog, hlogged⟩ := h.logs_execute
      { d.request .get with headers := conn.auth.headers w.asked } place
      { w with asked := w.asked + 1 } hw
    refine ⟨hP, log, hlog.imp_right ?_, hlogged.requests, hlogged.tells⟩
    rintro ⟨headers, answer, houtcome, rfl⟩
    exact ⟨d, headers, answer, rfl, houtcome, rfl⟩

end Connection.AnswersAtOnce

/-! ## The query for the records of a relation -/

/-- What happens while a loader loads a forest of relations of a type. -/
def Loader.Logs (conn : Connection σ) (P : σ → Prop) (s : Schema) (forest : List RelationTree)
    (load : Loader σ) : Prop :=
  ∀ models, (load models).Logs conn P fun _ => Loads conn.catalog conn.config s forest models

/-- Seen from the records that have a relation, what happens below it begins with a batch. -/
theorem Loader.Logs.under {conn : Connection σ} {P : σ → Prop} {s : Schema}
    {forest : List RelationTree} {load : Loader σ} (h : load.Logs conn P s forest) (name : String)
    (models : List Model) :
    (load models).Logs conn P fun _ log => ∃ below,
      Loads conn.catalog conn.config s forest models below ∧
        log = (onto models below).map (·.under name) := by
  intro w hw
  obtain ⟨hP, below, hbelow, hlogged⟩ := h models w hw
  exact ⟨hP, _, ⟨below, hbelow, rfl⟩, hlogged.onto_under models name⟩

namespace Cursor

variable {conn : Connection σ} {P : σ → Prop} {s : Schema} {name : String} {relation : Relation}
  {nested : List RelationTree} {load : Loader σ} {q : Query} {c : Cursor}

/-- The rows of a page hold a batch of records, unless there are none or they cannot be read. -/
theorem logs_materialize (hload : load.Logs conn P (conn.catalog.target relation) nested)
    {q : Query} {rows : List Json} (hrows : q.modelsOf conn.catalog conn.config.strict rows =
      ofRows? conn.catalog conn.config.strict (conn.catalog.target relation) rows)
    (name : String) :
    (materialize conn load q rows).Logs conn P fun _ log => log = [] ∨ ∃ models below,
      ofRows? conn.catalog conn.config.strict (conn.catalog.target relation) rows = .ok models ∧
        Loads conn.catalog conn.config (conn.catalog.target relation) nested models below ∧
        log = (onto models below).map (·.under name) := by
  intro w hw
  rw [eval_materialize_eq, hrows]
  cases hread : ofRows? conn.catalog conn.config.strict (conn.catalog.target relation) rows with
  | error e => exact ⟨hw, [], .inl rfl, .nil⟩
  | ok models =>
    dsimp only
    split
    · exact ⟨hw, [], .inl rfl, .nil⟩
    · obtain ⟨hP, log, ⟨below, hbelow, hlog⟩, hlogged⟩ := hload.under name models w hw
      exact ⟨hP, log, .inr ⟨models, below, rfl, hbelow, hlog⟩, hlogged⟩

variable (h : conn.AnswersAtOnce P) (hrelation : s.relation? name = .ok relation)
  (hload : load.Logs conn P (conn.catalog.target relation) nested)
  (hresource : q.resourceName = (conn.catalog.target relation).resourcePath)
  (hschema : q.schema = some (conn.catalog.target relation)) (hjoins : q.joins = [])
  (hpending : q.pending = [])

include h hresource hpending

/-- A page of the query is asked for by a request for records of the relation's type, which begins
the query if it asks for no page by its number. -/
theorem logs_fetchPage (name : String) (hpage : c.query.IsPageOf q) :
    (c.fetch conn).Logs conn P fun outcome log => (∃ e, outcome = .error e) ∧ log = [] ∨
      ∃ r answer, outcome = answer.bind Response.check ∧ log = [.request [name] r answer] ∧
        r.method = .get ∧ r.path = Text.trim (conn.catalog.target relation).resourcePath ∧
        (r.queryValue? "page").isNone = (c.query.pageClauses conn.config).2.isNone := by
  refine (h.logs_fetch c [name]).mono fun outcome log hlog => hlog.imp_right ?_
  rintro ⟨d, headers, answer, hd, houtcome, rfl⟩
  let r : Request := { d.request .get with headers := headers }
  have hquery : r.query = d.clauses.pairs := rfl
  refine ⟨r, answer, houtcome, rfl, rfl, ?_, ?_⟩
  · show d.uri = _
    rw [(hpage.of_describe (Query.prepare_eq_self conn.catalog hpending) hd).1, hresource]
  · have hclauses := congrArg Prod.snd (Query.pageClauses_of_describe hd)
    rw [Clauses.queryValue?_page hquery, Option.isNone_map]
    exact congrArg Option.isNone hclauses

include hrelation hload hschema hjoins

/-- A page of the query is one request, and its records are one batch at most. -/
theorem logs_readPage (hpage : c.query.IsPageOf q) :
    (c.readPage conn load).Logs conn P fun outcome log =>
      Paged conn.catalog conn.config s name nested (c.query.pageClauses conn.config).2.isNone log ∧
        ((∃ x, outcome = .ok x) → requests log [name] ≠ []) := by
  refine (logs_fetchPage h hresource hpending name hpage).bind ?_
    fun response log hlog => ?_
  · rintro e log (⟨-, rfl⟩ | ⟨r, answer, -, rfl, hget, hpath, hfirst⟩)
    · exact ⟨.nil, nofun⟩
    · exact ⟨hfirst ▸ .request hrelation hget hpath answer, nofun⟩
  obtain ⟨⟨e, he⟩, -⟩ | ⟨r, answer, houtcome, rfl, hget, hpath, hfirst⟩ := hlog
  · cases he
  obtain ⟨rfl, hcheck⟩ := Response.eq_of_bind_check houtcome.symm
  -- The page is asked for by now, and its records may have relations loaded onto them.
  have hread : ∀ {outcome : Except Error (Page.Info × List Model)} log, (log = [] ∨ ∃ models below,
      ofRows? conn.catalog conn.config.strict (conn.catalog.target relation)
          (response.rows conn.config.envelope) = .ok models ∧
        Loads conn.catalog conn.config (conn.catalog.target relation) nested models below ∧
        log = (onto models below).map (·.under name)) →
      Paged conn.catalog conn.config s name nested (c.query.pageClauses conn.config).2.isNone
          ([.request [name] r (.ok response)] ++ log) ∧
        ((∃ x, outcome = .ok x) →
          requests ([.request [name] r (.ok response)] ++ log) [name] ≠ []) := by
    intro outcome log hlog
    refine ⟨?_, fun _ => ?_⟩
    · obtain rfl | ⟨models, below, hmodels, hbelow, rfl⟩ := hlog
      · exact hfirst ▸ .request hrelation hget hpath _
      · exact hfirst ▸ .page hrelation hget hpath hcheck hmodels hbelow
    · rw [requests_append, requests_request]
      exact nofun
  have hrows (rows : List Json) : c.query.modelsOf conn.catalog conn.config.strict rows =
      ofRows? conn.catalog conn.config.strict (conn.catalog.target relation) rows := by
    rw [hpage.modelsOf_eq, Query.modelsOf_of_no_joins _ _ hschema hjoins]
  refine (logs_materialize hload (hrows _) name).bind (fun _ log hlog => hread log hlog)
    fun models log hlog => logs_pure ?_
  rw [List.append_nil]
  exact hread log hlog

/-- The loop over the pages begins a query with the first page, and none past it. -/
theorem logs_drain (records : RecordSet) (budget : Nat) (hpage : c.query.IsPageOf q)
    (hoffset : c.state = .fresh → c.query.offset = none) :
    (c.drain conn load records budget).Logs conn P fun _ =>
      Paged conn.catalog conn.config s name nested (decide (c.state = .fresh)) := by
  -- Behind the first page no query is begun, so the induction is over any cursor.
  induction budget generalizing records c with
  | zero => exact logs_throw .nil
  | succ budget ih =>
    rw [drain_page]
    dsimp only
    obtain ⟨hquery, -, hstate⟩ := ({ c with buffer := [] } : Cursor).labelAll_place c.buffer
    generalize ({ c with buffer := [] } : Cursor).labelAll c.buffer = handed at hquery hstate ⊢
    cases hadvance : handed.1.advance? conn.config with
    | none => exact logs_pure .nil
    | some asked =>
      have hasks : asked.query.IsPageOf q :=
        (advance?_frame hadvance).1.trans (hquery.symm ▸ hpage)
      have hfirst : (asked.query.pageClauses conn.config).2.isNone = decide (c.state = .fresh) := by
        rw [← hstate]
        obtain ⟨-, ⟨hfresh, rfl⟩ | ⟨hfetching, size, offset, -, rfl⟩⟩ := advance?_cases hadvance
        · have hnone : handed.1.query.offset = none :=
            hquery.symm ▸ hoffset (hstate.symm.trans hfresh)
          rw [hfresh, Query.pageClauses_of_no_offset hnone]
          rfl
        · rw [hfetching, Cursor.moved, Query.pageClauses_of_offset rfl]
          rfl
      have hbehind : asked.state ≠ .fresh := by
        intro hfresh
        obtain ⟨-, ⟨-, rfl⟩ | ⟨hfetching, size, offset, -, rfl⟩⟩ := advance?_cases hadvance
        · cases hfresh
        · cases hfetching.symm.trans hfresh
      refine (logs_readPage h hrelation hload hresource hschema hjoins hpending hasks).bind
        (fun _ _ hlog => hfirst ▸ hlog.1) fun read log hread => ?_
      obtain ⟨page, models⟩ := read
      obtain ⟨hlog, hsent⟩ := hread
      rw [hfirst] at hlog
      dsimp only
      cases (Cursor.deliver _ page models).2 with
      | none => exact logs_pure (by rwa [List.append_nil])
      | some kept =>
        let next : Cursor :=
          { (Cursor.deliver { asked with page := some page } page models).1 with buffer := kept }
        have hlater : next.state ≠ .fresh := by
          show (Cursor.deliver _ page models).1.state ≠ .fresh
          rw [state_deliver]
          split
          · intro hfresh
            cases hfresh
          · exact hbehind
        have hrest := ih (c := next) (records.insertAll handed.2) hasks
          fun hfresh => absurd hfresh hlater
        rw [decide_eq_false hlater] at hrest
        exact hrest.mono fun _ log' hlog' => hlog.append (hsent ⟨_, rfl⟩) hlog'

/-- All records of a query without an offset are read by one query. -/
theorem logs_allWith (hoffset : q.offset = none) :
    (conn.allWith load q).Logs conn P fun _ =>
      Paged conn.catalog conn.config s name nested true := by
  rw [conn.allWith_eq_drain load (Query.prepare_eq_self conn.catalog hpending)]
  exact logs_drain h hrelation hload hresource hschema hjoins hpending .empty conn.pageBudget
    (.inl rfl) fun _ => hoffset

end Cursor

/-! ## Trees of relations -/

namespace Connection

variable {conn : Connection σ} {P : σ → Prop} {s : Schema} {name : String} {relation : Relation}
  {nested : List RelationTree} {load : Loader σ}

/-- The records of a relation are queried once, if it is to be loaded for one of the records, and
every batch of them is of the rows of an answer. -/
theorem logs_loadPending (h : conn.AnswersAtOnce P) (hrelation : s.relation? name = .ok relation)
    (hload : load.Logs conn P (conn.catalog.target relation) nested)
    (models : List Model) :
    (conn.loadPending relation load models).Logs conn P fun _ log =>
      Below conn.catalog conn.config s name nested log ∧
        Accounted log [name] (anyPending name models).toNat 0 ∧
        ∀ records ∈ batches log [name],
          Source conn.catalog conn.config s log [] [] name records := by
  have hname := Schema.name_of_relation? hrelation
  unfold loadPending
  dsimp only
  split
  · exact logs_pure ⟨.nil, .of_none ⟨rfl, rfl⟩, nofun⟩
  rename_i hpending
  have hcount : (anyPending name models).toNat = 1 := by
    have hany : anyPending name models = true := by
      simpa [anyPending, ← hname, List.filter_eq_nil_iff] using hpending
    rw [hany]
    rfl
  rw [hcount]
  split
  · rename_i condition _
    have hall := Cursor.logs_allWith h hrelation hload
      (q := (Query.of (conn.catalog.target relation)).filter condition) rfl rfl rfl rfl rfl
    refine hall.bind (fun _ _ hlog => ⟨hlog.toBelow, hlog.accounted, hlog.read⟩)
      fun records log hlog => logs_pure ?_
    rw [List.append_nil]
    exact ⟨hlog.toBelow, hlog.accounted, hlog.read⟩
  · exact logs_pure ⟨.nil, .of_none ⟨rfl, rfl⟩, nofun⟩

/-- What is taken from all records that have something attached is what is attached to them. -/
theorem records_taken (name : String) (models : List Model) :
    (takeAt name (loadedPositions name models) models).1.flatMap (·.2.records) =
      attached name models := by
  have hdistinct : (loadedPositions name models).Nodup := List.nodup_range.filter _
  rw [taken_eq name hdistinct, List.flatMap_map, loadedPositions]
  clear hdistinct
  -- The positions behind the first record are those of the others, shifted by one.
  induction models with
  | nil => rfl
  | cons m rest ih =>
    rw [attached, List.flatMap_cons, List.length_cons, List.range_succ_eq_map, List.filter_cons,
      List.filter_map]
    have hrest : ((List.range rest.length).filter fun i => rest[i]?.any (·.isLoaded name)).flatMap
        (fun i => ((rest[i]?.bind (·.related? name)).getD .nothing).records) =
        attached name rest := ih
    split
    · rw [List.flatMap_cons, List.flatMap_map]
      exact congrArg _ hrest
    · rename_i hnone
      have hnone : m.related? name = none := Option.not_isSome_iff_eq_none.mp hnone
      rw [List.flatMap_map, hnone]
      exact hrest

/-- The records that came along are one batch. -/
theorem logs_loadInline (hload : load.Logs conn P (conn.catalog.target relation) nested)
    (name : String) (models : List Model) :
    (loadInline relation load models).Logs conn P fun _ log => ∃ below,
      Loads conn.catalog conn.config (conn.catalog.target relation) nested
          (attached relation.name models) below ∧
        log = (onto (attached relation.name models) below).map (·.under name) := by
  unfold loadInline loadInlineAt
  dsimp only
  rw [records_taken]
  refine (hload.under name _).bind (fun _ log hlog => hlog) fun loaded log hlog => logs_lift ?_
  rw [List.append_nil]
  exact hlog

/-- A relation is loaded for a record if it was before what is attached was exchanged. -/
theorem isLoaded_of_exchangesInline {R : Model → Model → Prop} {m m' : Model}
    (h : m.ExchangesInline R name m') : m'.isLoaded name = m.isLoaded name := by
  cases hloaded : m.isLoaded name with
  | false => rw [h.unattached hloaded, hloaded]
  | true =>
    obtain ⟨r, hr⟩ := isLoaded_iff.mp hloaded
    exact (h.attached r hr).1.loaded name List.mem_cons_self

mutual

/-- Loading a tree of relations queries its root for the records that it is to be loaded for, and
loads the trees below onto the records that came along and those of each page. -/
theorem logs_loadTree (h : conn.AnswersAtOnce P) (s : Schema) :
    ∀ tree : RelationTree, tree.Apart → (conn.loadTree s tree).Logs conn P s [tree]
  | .node name nested, hapart => by
    unfold RelationTree.Apart at hapart
    intro models
    unfold loadTree
    refine (logs_lift (L := fun outcome log => log = [] ∧ outcome = s.relation? name)
      ⟨rfl, rfl⟩).bind (fun _ log hlog => hlog.1 ▸ .nil) ?_
    rintro relation _ ⟨rfl, hrelation⟩
    obtain rfl := Schema.name_of_relation? hrelation.symm
    have hload := logs_loadForest h (conn.catalog.target relation) nested hapart
    have hpending := logs_loadPending h hrelation.symm hload
    dsimp only
    split
    · rename_i hany
      have hinline : anyLoaded relation.name models = true := (Bool.and_eq_true_iff.mp hany).1
      have hnested := loadForest_relates conn (conn.catalog.target relation) nested hapart
      refine ((logs_loadInline hload relation.name models).returning
        (loadInline_relates hnested models)).bind ?_ ?_
      · rintro e _ ⟨⟨below, hbelow, rfl⟩, -⟩
        have hnone : Accounted [] [relation.name] (anyPending relation.name models).toNat 0 :=
          .of_none ⟨rfl, rfl⟩
        simpa using Loads.tree_of_inline hrelation.symm hbelow hinline .nil hnone nofun
      · -- What was loaded so far leaves the records without the relation as they were.
        rintro loaded _ ⟨⟨below, hbelow, rfl⟩, hloaded⟩
        have hsame : anyPending relation.name loaded = anyPending relation.name models :=
          (any_congr ((hloaded loaded rfl).imp fun _ _ => isLoaded_of_exchangesInline)).1
        refine (hpending loaded).mono fun _ log ⟨hqueried, hlog, hread⟩ => ?_
        exact Loads.tree_of_inline hrelation.symm hbelow hinline hqueried (hsame ▸ hlog) hread
    · exact (hpending models).mono fun _ log ⟨hqueried, hlog, hread⟩ =>
        Loads.tree hqueried (hlog.mono (Nat.zero_le _)) fun records hrecords =>
          (hread records hrecords).mono (fun _ hbatch => absurd hbatch List.not_mem_nil)
            fun _ he => he

/-- Loading some trees of relations loads one after another. -/
theorem logs_loadForest (h : conn.AnswersAtOnce P) (s : Schema) :
    ∀ forest : List RelationTree, AllApart forest →
      (conn.loadForest s forest).Logs conn P s forest
  | [], _ => by
    intro models
    unfold loadForest
    exact logs_pure .nil
  | tree :: rest, hapart => by
    obtain ⟨hroot, htree, hrest⟩ := hapart
    intro models
    unfold loadForest
    refine ((logs_loadTree h s tree htree models).returning
      (loadTree_relates conn s tree htree models)).bind ?_ ?_
    · rintro e log ⟨hlog, -⟩
      have hnone : Loads conn.catalog conn.config s rest models [] := .nil
      simpa using Loads.cons hroot hlog hnone fun _ _ => List.forall₂_same.mpr fun _ _ => rfl
    · rintro loaded log ⟨hlog, hloaded⟩
      refine (logs_loadForest h s rest hrest loaded).mono fun _ log' hlog' =>
        Loads.cons hroot hlog hlog' fun other hother => ?_
      refine (hloaded loaded rfl).imp fun m m' ⟨hextends, _⟩ => ?_
      refine hextends.others other fun hmem => hroot ?_
      rwa [← List.mem_singleton.mp hmem]

end

/-- A store without queued replies answers at once. -/
theorem answersAtOnce_of_store {conn : Connection Store} {s : Store.Settings}
    (h : conn.answer = Store.send s) : conn.AnswersAtOnce fun st => st.queued = [] := by
  have hsend : ∀ (request : Request) {st : Store}, st.queued = [] →
      (conn.answer request st).1 = .ok (Store.answerTo s st.collections request) ∧
        (conn.answer request st).2.queued = [] := by
    intro request st hst
    rw [h, Store.send]
    simp only [hst, Store.handle_eq]
    exact ⟨trivial, trivial⟩
  constructor
  · intro request st e hst he
    rw [(hsend request hst).1] at he
    exact Store.isTransient_of_check_answerTo he
  · exact fun request st hst => (hsend request hst).2

/-- Loading the relations of a page queries a relation once for a batch of records at most. The page
is the first batch, so a relation of its own records is queried once, whatever the rows contain. One
that is named behind others is queried again for the records that came with another batch and for
those of every page that is read, and once if no batch is mixed and every query has one page. -/
theorem materialize_queries {conn : Connection σ} {P : σ → Prop} (h : conn.AnswersAtOnce P)
    {q : Query} {t : Schema} (hschema : q.schema = some t) {rows : List Json} {models : List Model}
    (hmodels : q.modelsOf conn.catalog conn.config.strict rows = .ok models) {w : World σ}
    (hw : P w.backend) :
    let after := (eval (Cursor.materialize conn (conn.loader q) q rows) w).2
    ∃ log : LoadLog,
      after.requests = w.requests ++ log.filterMap LoadEvent.request? ∧
        conn.Tells w.backend log after.backend ∧
        log.OfPage conn.catalog conn.config t q.eager models ∧
        (∀ name, (queries log [name]).length ≤ 1) ∧
        (∀ path name, (queries log (path ++ [name])).length ≤
          1 + (path.inits.map fun p => (requests log p).length).sum) ∧
        (log.Unmixed → ∀ path name, (queries log (path ++ [name])).length ≤ 1) := by
  intro after
  have hload : (conn.loader q).Logs conn P t (ofPaths q.eager) := by
    rw [loader, hschema]
    exact logs_loadForest h t _ (allApart_ofPaths q.eager)
  obtain ⟨below, hbelow, hlogged⟩ : ∃ below,
      Loads conn.catalog conn.config t (ofPaths q.eager) models below ∧
        conn.Logged below w after := by
    show ∃ below, _ ∧
      conn.Logged below w (eval (Cursor.materialize conn (conn.loader q) q rows) w).2
    rw [Cursor.eval_materialize_eq, hmodels]
    dsimp only
    split
    · exact ⟨[], .nil, .nil⟩
    · exact (hload models w hw).2
  have hpage := hbelow.ofPage
  exact ⟨onto models below, hlogged.requests, hlogged.tells, hpage,
    fun name => Nat.le_trans (hbelow.accounted name).queries_le (Bool.toNat_le _),
    fun path name => Nat.le_trans (hpage.balanced path name).queries_le
      (Nat.le_trans List.countP_le_length (length_batches_le hpage.balanced hpage.page path)),
    fun hunmixed => hunmixed.queries_le_one hpage.page hpage.balanced⟩

/-- Of two orders one came with its customer. The region is queried for this customer, and again for
the customer of the other order, which is read by a query of its own. -/
theorem materialize_queries_orders :
    let link (target localField : String) : Relation :=
      { name := localField, target := target, multiple := false
        link := [("id", localField ++ "_id")] }
    let order : Schema :=
      { typeName := "Order", fields := ["id", "customer_id"]
        relations := [link "Customer" "customer"] }
    let customer : Schema :=
      { typeName := "Customer", fields := ["id", "region_id"]
        relations := [link "Region" "region"] }
    let region : Schema := { typeName := "Region", fields := ["id"] }
    let conn : Connection Store :=
      { catalog := [order, customer, region], config := {}, auth := .none, answer := Store.send {}
        pageBudget := 3 }
    let q : Query := { Query.of order with eager := ["customer.region"] }
    let rows : List Json :=
      [.object [("customer", .object [("id", .nat 1), ("region_id", .nat 7)]),
          ("customer_id", .nat 1), ("id", .nat 1)],
        .object [("customer_id", .nat 2), ("id", .nat 2)]]
    let collections : KeyMap (List Json) :=
      [("customers", [.object [("id", .nat 2), ("region_id", .nat 7)]]),
        ("regions", [.object [("id", .nat 7)]])]
    let w : World Store := { backend := { collections := collections } }
    let after := (eval (Cursor.materialize conn (conn.loader q) q rows) w).2
    ∃ models, (conn.AnswersAtOnce (fun st => st.queued = []) ∧ q.schema = some order ∧
        q.modelsOf conn.catalog conn.config.strict rows = .ok models ∧ w.backend.queued = []) ∧
      (after.requests.filter fun r => (r.queryValue? "page").isNone).map (·.path) =
        ["regions", "customers", "regions"] ∧
      ∃ log : LoadLog,
        after.requests = w.requests ++ log.filterMap LoadEvent.request? ∧
          conn.Tells w.backend log after.backend ∧
          log.OfPage conn.catalog conn.config order q.eager models ∧
          (∀ name, (queries log [name]).length ≤ 1) ∧
          (∀ path name, (queries log (path ++ [name])).length ≤
            1 + (path.inits.map fun p => (requests log p).length).sum) ∧
          (log.Unmixed → ∀ path name, (queries log (path ++ [name])).length ≤ 1) := by
  intro link order customer region conn q rows collections w after
  have hconn : conn.AnswersAtOnce fun st => st.queued = [] := answersAtOnce_of_store rfl
  obtain ⟨models, hmodels⟩ : ∃ models,
      q.modelsOf conn.catalog conn.config.strict rows = .ok models := ⟨_, rfl⟩
  exact ⟨models, ⟨hconn, rfl, hmodels, rfl⟩, by decide +kernel,
    materialize_queries hconn rfl hmodels rfl⟩

end Connection

end RestQuery
