import RestQuery.Proofs.Page.Calls

/-!
# What a cursor delivers, whatever the server answers

The responses for the pages of a query are any sequence of successful responses whose rows can be
read: pages may be empty, larger than asked for, or say nothing true of themselves.
`Connection.Answers` says that a server answers the calls on a cursor by such a sequence, and `Ends`
for which reasons no page is asked for after so many of its responses.

`After` is the state of a cursor after so many responses. A call on a cursor in that state asks for
nothing if it is to end there (`After.advance?_eq_none`), and else leads to the state after one more
response (`After.nextPage`). So the calls go through the states one by one until the first that ends
them, which `calls_delivers` puts together with what holds of all calls.
-/

namespace RestQuery

open Session Text

variable {σ : Type}

/-- The response for a page, and the records that its rows hold. -/
structure Reading where
  response : Response
  models : List Model

/-- What of some rows lies below the limit of a query. -/
def Query.upToLimit {α : Type} (q : Query) (rows : List α) : List α :=
  match q.limit with
  | some limit => rows.take limit
  | none => rows

namespace Reading

variable (config : Config) (q : Query) (pages : Nat → Reading)

/-- What a response tells about its page. -/
def info (r : Reading) : Page.Info := Page.Info.ofResponse config.pageHeaders r.response

/-- The records of the first so many responses. -/
def received (n : Nat) : List Model := (List.range n).flatMap fun i => (pages i).models

/-- The page size after so many responses: what the last of them tells, else what it was before. -/
def sizeAfter : Nat → Nat
  | 0 => q.perPage.getD config.defaultPerPage
  | n + 1 => ((pages n).info config).perPage.getD (sizeAfter n)

/-- Why no page is asked for after so many responses. -/
inductive Ends : Nat → Prop where
  /-- Their records reach the limit. -/
  | limit {n limit : Nat} (hlimit : q.limit = some limit)
      (hreached : limit ≤ (received pages n).length) : Ends n
  /-- The last of them has no record. -/
  | empty {n : Nat} (hempty : (pages n).models = []) : Ends (n + 1)
  /-- The last of them tells of no current page below the number of pages. -/
  | last {n : Nat} (hlast : ((pages n).info config).hasMore = false) : Ends (n + 1)
  /-- The offset of the next page exceeds 64 bits. -/
  | far {n current : Nat} (hcurrent : ((pages n).info config).currentPage = some current)
      (hfar : maxWord64 < current * sizeAfter config q pages (n + 1)) : Ends (n + 1)

variable {pages}

theorem received_succ (n : Nat) :
    received pages (n + 1) = received pages n ++ (pages n).models := by
  simp only [received, List.range_succ, List.flatMap_append, List.flatMap_singleton]

end Reading

open Reading

theorem Query.upToLimit_nil {α : Type} (q : Query) : q.upToLimit ([] : List α) = [] := by
  unfold upToLimit
  split
  · exact List.take_nil
  · rfl

/-- The rows below the limit, counted. -/
theorem Query.length_upToLimit {α : Type} {q : Query} {limit : Nat} (hlimit : q.limit = some limit)
    (rows : List α) : (q.upToLimit rows).length = min limit rows.length := by
  rw [upToLimit, hlimit]
  exact List.length_take

/-- Of further rows, those lie below the limit that a cursor keeps which has delivered the rows
before. -/
theorem Query.upToLimit_append {q : Query} {c : Cursor} (hlimit : c.initial.limit = q.limit)
    {rows : List Model} (hfetched : c.fetched = (q.upToLimit rows).length) (more : List Model) :
    q.upToLimit (rows ++ more) = q.upToLimit rows ++ c.keep more := by
  unfold upToLimit at hfetched ⊢
  rw [Cursor.keep, hlimit]
  cases hq : q.limit with
  | none => rfl
  | some limit =>
    rw [hq] at hfetched
    dsimp only at hfetched ⊢
    have hleft : limit - c.fetched = limit - rows.length := by
      rw [hfetched, List.length_take]
      omega
    rw [hleft, List.take_append]

namespace Cursor

variable {c : Cursor} {config : Config}

/-- The limit is not reached while fewer records were delivered. -/
theorem any_le_fetched_eq_false (h : ∀ limit, c.initial.limit = some limit → c.fetched < limit) :
    c.initial.limit.any (· ≤ c.fetched) = false := by
  cases hlimit : c.initial.limit with
  | none => rfl
  | some limit => simpa using h limit hlimit

/-- A cursor that has reached its limit asks for nothing. -/
theorem advance?_of_reached (h : c.initial.limit.any (· ≤ c.fetched) = true) :
    c.advance? config = none := by
  unfold advance?
  rw [if_pos h]
  exact ite_self none

/-- Where a response tells of a page to follow, its offset is the current page times the page size,
if that has 64 bits. -/
theorem nextWindow?_of_page {page : Page.Info} {current size : Nat} (hpage : c.page = some page)
    (hmore : page.hasMore = true) (hcurrent : page.currentPage = some current)
    (hsize : page.perPage.getD (c.query.perPage.getD config.defaultPerPage) = size) :
    c.nextWindow? config =
      if current * size ≤ maxWord64 then some (size, current * size) else none := by
  have hchosen : (page.perPage <|> c.query.perPage).getD config.defaultPerPage = size := by
    rw [← hsize]
    cases page.perPage <;> rfl
  have hoffset : ({ page with perPage := some size } : Page.Info).nextOffset? =
      if current * size ≤ maxWord64 then some (current * size) else none := by
    have hstill : ({ page with perPage := some size } : Page.Info).hasMore = true := hmore
    rw [Page.Info.nextOffset?, if_pos hstill, hcurrent]
    rfl
  rw [nextWindow?, hpage]
  show (({ page with
    perPage := some ((page.perPage <|> c.query.perPage).getD config.defaultPerPage) } :
      Page.Info).nextOffset?).bind (fun offset =>
        some ((page.perPage <|> c.query.perPage).getD config.defaultPerPage, offset)) = _
  rw [hchosen, hoffset]
  split <;> rfl

/-- A page with a record, from a cursor below its limit, is the last only if it reaches the limit or
tells of no page to follow. -/
theorem isLast_eq_false {page : Page.Info} {models : List Model}
    (hopen : ∀ limit, c.initial.limit = some limit → c.fetched + models.length < limit)
    (hmodels : models ≠ []) (hmore : page.hasMore = true) : c.isLast page models = false := by
  have hkeep : c.keep models = models := by
    unfold keep
    cases hlimit : c.initial.limit with
    | none => rfl
    | some limit =>
      have := hopen limit hlimit
      exact List.take_of_length_le (by omega)
  have hshort : c.initial.limit.any (fun limit => limit - c.fetched ≤ models.length) = false := by
    cases hlimit : c.initial.limit with
    | none => rfl
    | some limit =>
      have := hopen limit hlimit
      simp only [Option.any_some, decide_eq_false_iff_not]
      omega
  rw [isLast, hshort, hkeep, hmore, List.isEmpty_eq_false_iff.mpr hmodels]
  rfl

end Cursor

/-! ## The state after some responses -/

/-- A cursor over a query that has delivered so many responses. -/
structure Delivered (q : Query) (pages : Nat → Reading) (n : Nat) (c : Cursor) : Prop where
  query : c.query.IsPageOf q
  limit : c.initial.limit = q.limit
  fetched : c.fetched = (q.upToLimit (received pages n)).length

/-- A cursor after a call, when so many responses were delivered. -/
structure After (config : Config) (q : Query) (pages : Nat → Reading) (n : Nat) (c : Cursor) : Prop
    extends Delivered q pages n c where
  /-- The size is still the one that the last page was asked for in. -/
  size : c.query.perPage.getD config.defaultPerPage = sizeAfter config q pages (n - 1)
  /-- It holds what the last response told, and is exhausted only for a reason; where it is not,
  that response had records and told of a page to follow. -/
  place : match n with
    | 0 => c.state = .fresh
    | m + 1 => c.page = some ((pages m).info config) ∧
      ((c.state = .exhausted ∧ Ends config q pages (m + 1)) ∨
        (c.state = .fetching ∧ (pages m).models ≠ [] ∧ ((pages m).info config).hasMore = true))

/-- A cursor that asks for a page, when so many responses were delivered. -/
structure Asking (config : Config) (q : Query) (pages : Nat → Reading) (n : Nat) (c : Cursor) : Prop
    extends Delivered q pages n c where
  size : c.query.perPage.getD config.defaultPerPage = sizeAfter config q pages n
  state : c.state = .fetching

section

variable {config : Config} {q : Query} {pages : Nat → Reading} {n : Nat} {c : Cursor}

/-- A cursor that is to go on has delivered all that was received, and that is below its limit. -/
theorem Delivered.of_not_ends (h : Delivered q pages n c) (hgoes : ¬ Ends config q pages n) :
    c.fetched = (received pages n).length ∧
      ∀ limit, c.initial.limit = some limit → c.fetched < limit := by
  have hbelow : ∀ limit, q.limit = some limit → (received pages n).length < limit := by
    intro limit hq
    by_contra hreached
    exact hgoes (.limit hq (Nat.le_of_not_lt hreached))
  have hall : c.fetched = (received pages n).length := by
    cases hq : q.limit with
    | none => rw [h.fetched, Query.upToLimit, hq]
    | some limit =>
      have := hbelow limit hq
      rw [h.fetched, Query.length_upToLimit hq]
      omega
  refine ⟨hall, fun limit hq => ?_⟩
  rw [hall]
  exact hbelow limit (h.limit ▸ hq)

namespace After

/-- The cursor for a query was not answered yet. -/
theorem start (config : Config) (q : Query) (pages : Nat → Reading)
    (hquery : c.query = q) (hlimit : c.initial.limit = q.limit) (hfetched : c.fetched = 0)
    (hstate : c.state = .fresh) : After config q pages 0 c where
  query := .inl hquery
  limit := hlimit
  fetched := by
    rw [hfetched, show received pages 0 = [] from rfl, Query.upToLimit_nil]
    rfl
  size := by rw [hquery]; rfl
  place := hstate

/-- The next page is asked for in the size that the last response leaves. -/
theorem nextWindow?_eq {current : Nat} (h : After config q pages (n + 1) c)
    (hpage : c.page = some ((pages n).info config))
    (hmore : ((pages n).info config).hasMore = true)
    (hcurrent : ((pages n).info config).currentPage = some current) :
    c.nextWindow? config =
      if current * sizeAfter config q pages (n + 1) ≤ maxWord64 then
        some (sizeAfter config q pages (n + 1), current * sizeAfter config q pages (n + 1))
      else none := by
  refine Cursor.nextWindow?_of_page hpage hmore hcurrent ?_
  rw [h.size]
  rfl

/-- Where the responses end, no page is asked for. -/
theorem advance?_eq_none (h : After config q pages n c) (hends : Ends config q pages n) :
    c.advance? config = none := by
  have hexhausted : c.state = .exhausted → c.advance? config = none := fun hstate => if_pos hstate
  -- The limit is looked at before anything that the last response told.
  by_cases hreached : c.initial.limit.any (· ≤ c.fetched) = true
  · exact Cursor.advance?_of_reached hreached
  cases hends with
  | limit hlimit hle =>
    have hcount := Query.length_upToLimit hlimit (received pages n)
    rw [← h.fetched] at hcount
    rw [h.limit, hlimit, Option.any_some, decide_eq_true_eq] at hreached
    omega
  | empty hempty =>
    obtain ⟨-, ⟨hstate, -⟩ | ⟨-, hmodels, -⟩⟩ := h.place
    · exact hexhausted hstate
    · exact absurd hempty hmodels
  | last hlast =>
    obtain ⟨-, ⟨hstate, -⟩ | ⟨-, -, hmore⟩⟩ := h.place
    · exact hexhausted hstate
    · rw [hlast] at hmore
      cases hmore
  | far hcurrent hfar =>
    obtain ⟨hpage, ⟨hstate, -⟩ | ⟨hstate, -, hmore⟩⟩ := h.place
    · exact hexhausted hstate
    · have hwindow := h.nextWindow?_eq hpage hmore hcurrent
      rw [Cursor.advance?_of_fetching config hstate (Bool.not_eq_true _ ▸ hreached), hwindow,
        if_neg (Nat.not_le_of_lt hfar)]
      rfl

/-- Where the responses do not end, the next page is asked for. -/
theorem exists_advance? (h : After config q pages n c) (hgoes : ¬ Ends config q pages n) :
    ∃ asked, c.advance? config = some asked ∧ Asking config q pages n asked := by
  have hopen : c.initial.limit.any (· ≤ c.fetched) = false :=
    Cursor.any_le_fetched_eq_false (h.toDelivered.of_not_ends hgoes).2
  cases n with
  | zero =>
    refine ⟨{ c with state := .fetching }, ?_, ⟨⟨h.query, h.limit, h.fetched⟩, h.size, rfl⟩⟩
    rw [Cursor.advance?_of_fresh config h.place, hopen]
    rfl
  | succ m =>
    obtain ⟨hpage, ⟨-, hends⟩ | ⟨hstate, -, hmore⟩⟩ := h.place
    · exact absurd hends hgoes
    obtain ⟨current, hcurrent⟩ : ∃ current, ((pages m).info config).currentPage = some current := by
      cases hcurrent : ((pages m).info config).currentPage with
      | none =>
        rw [Page.Info.hasMore, hcurrent] at hmore
        cases hmore
      | some current => exact ⟨current, rfl⟩
    have hnear : current * sizeAfter config q pages (m + 1) ≤ maxWord64 := by
      by_contra hfar
      exact hgoes (.far hcurrent (Nat.lt_of_not_le hfar))
    have hwindow := h.nextWindow?_eq hpage hmore hcurrent
    have hmoved : c.nextWindow? config = some (sizeAfter config q pages (m + 1),
        current * sizeAfter config q pages (m + 1)) := hwindow.trans (if_pos hnear)
    refine ⟨c.moved (sizeAfter config q pages (m + 1))
      (current * sizeAfter config q pages (m + 1)), ?_, ?_⟩
    · rw [Cursor.advance?_of_fetching config hstate hopen, hmoved]
      rfl
    · exact ⟨⟨h.query.withWindow _ _, h.limit, h.fetched⟩, rfl, hstate⟩

end After

namespace Asking

variable {asked : Cursor}

/-- A response is the last only for a reason. -/
theorem ends_of_isLast (h : Asking config q pages n asked) (hgoes : ¬ Ends config q pages n)
    (hlast : asked.isLast ((pages n).info config) (pages n).models = true) :
    Ends config q pages (n + 1) := by
  obtain ⟨hall, -⟩ := h.toDelivered.of_not_ends hgoes
  -- If the calls were to go on, none of the three tests for the last page would have passed.
  by_contra hon
  have hmodels : (pages n).models ≠ [] := fun hempty => hon (.empty hempty)
  have hmore : ((pages n).info config).hasMore = true := by
    cases hmore : ((pages n).info config).hasMore with
    | true => rfl
    | false => exact absurd (.last hmore) hon
  have hopen : ∀ limit, asked.initial.limit = some limit →
      asked.fetched + (pages n).models.length < limit := by
    intro limit hlimit
    by_contra hreached
    refine hon (.limit (h.limit.symm.trans hlimit) ?_)
    rw [received_succ, List.length_append, ← hall]
    exact Nat.le_of_not_lt hreached
  rw [Cursor.isLast_eq_false hopen hmodels hmore] at hlast
  cases hlast

/-- A response that is not the last has records and tells of a page to follow. -/
theorem goesOn_of_isLast (hlast : asked.isLast ((pages n).info config) (pages n).models = false) :
    (pages n).models ≠ [] ∧ ((pages n).info config).hasMore = true := by
  simp only [Cursor.isLast, Bool.or_eq_false_iff, Bool.not_eq_false'] at hlast
  obtain ⟨⟨-, hkept⟩, hmore⟩ := hlast
  refine ⟨fun hempty => ?_, hmore⟩
  have hnil : asked.keep [] = [] := by
    unfold Cursor.keep
    split
    · exact List.take_nil
    · rfl
  rw [hempty, hnil] at hkept
  cases hkept

/-- A response delivers what the limit leaves of its records, and nothing only if the calls are to
end with it. -/
theorem deliver {conn : Connection σ} (h : Asking conn.config q pages n asked)
    (hgoes : ¬ Ends conn.config q pages n) :
    ∃ c' result, (asked.told conn (pages n).response).deliver ((pages n).info conn.config)
        (pages n).models = (c', result) ∧ After conn.config q pages (n + 1) c' ∧
      q.upToLimit (received pages (n + 1)) =
        q.upToLimit (received pages n) ++ result.getD [] ∧
      (result = none → Ends conn.config q pages (n + 1)) := by
  have happend : q.upToLimit (received pages (n + 1)) =
      q.upToLimit (received pages n) ++ asked.keep (pages n).models := by
    rw [received_succ]
    exact Query.upToLimit_append h.limit h.fetched _
  have hstate := Cursor.state_deliver (c := asked.told conn (pages n).response)
    ((pages n).info conn.config) (pages n).models
  have hkept := Cursor.getD_deliver (c := asked.told conn (pages n).response)
    ((pages n).info conn.config) (pages n).models
  refine ⟨_, _, rfl, ⟨⟨h.query, h.limit, ?_⟩, h.size, rfl, ?_⟩, ?_, fun hnone => ?_⟩
  · rw [happend, List.length_append, ← h.fetched]
    rfl
  · cases hlast : asked.isLast ((pages n).info conn.config) (pages n).models with
    | true => exact .inl ⟨hstate.trans (if_pos hlast), h.ends_of_isLast hgoes hlast⟩
    | false =>
      refine .inr ⟨?_, goesOn_of_isLast hlast⟩
      exact (hstate.trans (if_neg (Bool.eq_false_iff.mp hlast))).trans h.state
  · exact happend.trans (congrArg (q.upToLimit (received pages n) ++ ·) hkept.symm)
  · exact h.ends_of_isLast hgoes (Cursor.isLast_of_deliver_none hnone)

end Asking

end

/-! ## The server -/

namespace Connection

variable {conn : Connection σ} {q : Query} {pages : Nat → Reading} {n : Nat} {c c' : Cursor}
  {w w' : World σ}

/-- The request for a page as it is sent from a world on: with the credential. -/
def signed (conn : Connection σ) (request : Request) (w : World σ) : Request :=
  conn.authorized { request with headers := conn.auth.headers w.asked }
    { w with asked := w.asked + 1 }

/-- A server answers the calls on a cursor from a world, whatever they ask for, with one successful
response after another, whose rows can be read. -/
def Answers (conn : Connection σ) (c : Cursor) (w : World σ) (pages : Nat → Reading) : Prop :=
  ∀ {results : List (Option (List Model))} {c' : Cursor} {w' : World σ}
    {asked : Except Error Request}, conn.Calls c w results c' w' →
    c'.nextRequest? conn = some asked →
    ∃ request, asked = .ok request ∧
      (conn.trial (conn.signed request w') w').outcome = .ok (pages results.length).response ∧
      c.query.modelsOf conn.catalog conn.config.strict
          ((pages results.length).response.rows conn.config.envelope) =
        .ok (pages results.length).models

/-- A page whose request is answered with success is fetched by that request. -/
theorem eval_fetch_of_answered {request : Request} {response : Response}
    (hw : w.Open) (hrequest : c.pageRequest conn = .ok request)
    (hanswer : (conn.trial (conn.signed request w) w).outcome = .ok response) :
    ∃ w', eval (c.fetch conn) w = (.ok response, w') ∧ w'.Open ∧
      w'.sent.length = w.sent.length + 1 := by
  obtain ⟨w', heval, hopen, -, hsent⟩ := conn.eval_execute_ok
    { request with headers := conn.auth.headers w.asked }
    (w := { w with asked := w.asked + 1 }) ⟨hw.live, hw.undisturbed⟩ hanswer
  refine ⟨w', ?_, hopen, ?_⟩
  · rw [Cursor.eval_fetch, hrequest]
    exact heval
  · rw [hsent, List.length_append]
    rfl

/-- A cursor that is to go on delivers the next response, for one request. -/
theorem nextPage_of_answered (h : After conn.config q pages n c)
    (hgoes : ¬ Ends conn.config q pages n) (heager : q.eager = []) (hw : w.Open)
    (hanswer : ∀ asked, c.nextRequest? conn = some asked → ∃ request, asked = .ok request ∧
      (conn.trial (conn.signed request w) w).outcome = .ok (pages n).response ∧
      q.modelsOf conn.catalog conn.config.strict
        ((pages n).response.rows conn.config.envelope) = .ok (pages n).models) :
    ∃ c' result w', (conn.nextPage c).run w = ((c', .ok result), w') ∧
      After conn.config q pages (n + 1) c' ∧ w'.Open ∧
      w'.sent.length = w.sent.length + 1 ∧
      q.upToLimit (received pages (n + 1)) =
        q.upToLimit (received pages n) ++ result.getD [] ∧
      (result = none → Ends conn.config q pages (n + 1)) := by
  obtain ⟨asked, hadvance, hasking⟩ := h.exists_advance? hgoes
  obtain ⟨request, hrequest, hreply, hmodels⟩ := hanswer (asked.pageRequest conn) (by
    rw [Cursor.nextRequest?, hadvance]
    rfl)
  obtain ⟨w', hfetch, hopen, hsent⟩ := eval_fetch_of_answered hw hrequest hreply
  obtain ⟨c', result, hdeliver, hafter, happend, hnone⟩ := hasking.deliver hgoes
  refine ⟨c', result, w', ?_, hafter, hopen, hsent, happend, hnone⟩
  have hloader : conn.loader c.query = pure :=
    conn.loader_eq_pure (h.query.reads.2.2.2.trans heager)
  rw [nextPage_of_advance? hadvance, hloader, Cursor.run_read, hfetch]
  dsimp only
  rw [Cursor.eval_materialize_pure, hasking.query.modelsOf_eq, hmodels]
  dsimp only
  show ((((asked.told conn (pages n).response).deliver ((pages n).info conn.config)
    (pages n).models).1, Except.ok ((asked.told conn (pages n).response).deliver
      ((pages n).info conn.config) (pages n).models).2), w') = _
  rw [hdeliver]

/-- As long as no response ends the calls, they deliver one response after another, each for one
request. Only the last of them may deliver nothing. -/
theorem exists_calls (hstart : After conn.config c.query pages 0 c) (heager : c.query.eager = [])
    (hw : w.Open) (hserver : conn.Answers c w pages) (n : Nat)
    (hgoes : ∀ m < n, ¬ Ends conn.config c.query pages m) :
    ∃ (deliveries : List (List Model)) (results : List (Option (List Model))) (c' : Cursor)
        (w' : World σ), conn.Calls c w results c' w' ∧ results.length = n ∧
      (results = deliveries.map some ∨
        Ends conn.config c.query pages n ∧ results = deliveries.map some ++ [none]) ∧
      deliveries.flatten = c.query.upToLimit (received pages n) ∧
      After conn.config c.query pages n c' ∧ w'.Open ∧
      w'.sent.length = w.sent.length + n := by
  induction n with
  | zero =>
    exact ⟨[], [], c, w, .nil, rfl, .inl rfl, (Query.upToLimit_nil _).symm, hstart, hw, rfl⟩
  | succ n ih =>
    obtain ⟨deliveries, results, c₁, w₁, hcalls, hlength, hresults, hflatten, hafter, hopen,
      hsent⟩ := ih fun m hm => hgoes m (Nat.lt_succ_of_lt hm)
    have hon := hgoes n (Nat.lt_succ_self n)
    obtain ⟨c₂, result, w₂, hcall, hafter, hopen, hsent₁, happend, hnone⟩ :=
      nextPage_of_answered hafter hon heager hopen fun asked hasked =>
        hlength ▸ hserver hcalls hasked
    -- So far each call has delivered something, since nothing has ended the calls.
    obtain rfl : results = deliveries.map some := hresults.resolve_right fun h => hon h.1
    have hcount : (deliveries.map some ++ [result]).length = n + 1 := by
      rw [List.length_append, hlength]
      rfl
    rw [happend, ← hflatten]
    cases result with
    | none =>
      exact ⟨deliveries, _, c₂, w₂, hcalls.call hcall, hcount, .inr ⟨hnone rfl, rfl⟩,
        (List.append_nil _).symm, hafter, hopen, by omega⟩
    | some models =>
      refine ⟨deliveries ++ [models], _, c₂, w₂, hcalls.call hcall, hcount, .inl ?_, ?_, hafter,
        hopen, by omega⟩
      · rw [List.map_append]
        rfl
      · rw [List.flatten_append, List.flatten_singleton]
        rfl

/-- What the calls on a cursor deliver from a world on, where the server answers them with a
sequence of responses. -/
structure Delivers (conn : Connection σ) (c : Cursor) (w : World σ) (pages : Nat → Reading) :
    Prop where
  /-- Made until one returns nothing, they deliver what the limit leaves of the records of all
  responses up to the first that ends them, for as many requests. -/
  finishes : ∀ {k : Nat}, Ends conn.config c.query pages k →
    (∀ m < k, ¬ Ends conn.config c.query pages m) →
    ∃ (deliveries : List (List Model)) (c' : Cursor) (w' : World σ),
      conn.Calls c w (deliveries.map some ++ [none]) c' w' ∧
      deliveries.flatten = c.query.upToLimit (received pages k) ∧
      w'.sent.length = w.sent.length + k
  /-- The cursor counts what was delivered, which is never more than the limit. -/
  counted : ∀ {results : List (Option (List Model))} {c' : Cursor} {w' : World σ},
    conn.Calls c w results c' w' → c'.fetched = (results.flatMap (·.getD [])).length ∧
      ∀ limit, c.query.limit = some limit → c'.fetched ≤ limit
  /-- A call that returns nothing leaves the cursor exhausted, and further calls return nothing and
  cost nothing. -/
  ended : ∀ {results : List (Option (List Model))} {c' c'' : Cursor} {w' w'' : World σ},
    conn.Calls c w results c' w' → (conn.nextPage c').run w' = ((c'', .ok none), w'') →
    c''.state = .exhausted ∧ ∀ w₁, (conn.nextPage c'').run w₁ = ((c'', .ok none), w₁)
  /-- All requests have one path and the same pairs, but for those that tell the page. -/
  requests : ∃ path fixed, ∀ {results : List (Option (List Model))} {c' : Cursor} {w' : World σ},
    conn.Calls c w results c' w' →
    w.Adds (fun r => r.method = .get ∧ r.path = path ∧ ∃ perPage page,
      r.query = fixed ++ Clauses.pair "per-page" perPage ++ Clauses.pair "page" page) w'

/-- Where the query does not compile, no call reads a page, so nothing is sent. -/
theorem Calls.sent_eq_of_describe_error {results : List (Option (List Model))} {e : Error}
    (h : conn.Calls c w results c' w')
    (he : c.query.describe conn.catalog conn.config [] = .error e) : w'.sent = w.sent := by
  induction h with
  | nil => rfl
  | call h hcall ih =>
    obtain ⟨-, -, -, rfl⟩ | ⟨asked, response, models, w₁, hasked, hfetch, -⟩ := nextPage_cases hcall
    · exact ih
    · obtain ⟨perPage, page, hdescribe⟩ :=
        ((Cursor.advance?_frame hasked).1.trans h.frame.1).describe_eq conn.catalog conn.config
      rw [Cursor.eval_fetch, Cursor.pageRequest, hdescribe, he] at hfetch
      cases hfetch

/-- A cursor for a query without relations to load delivers what a server answers to its calls,
whatever that is. -/
theorem calls_delivers (hcursor : conn.cursor q = .ok c) (heager : q.eager = [])
    (hw : w.Open) (hserver : conn.Answers c w pages) : conn.Delivers c w pages := by
  obtain ⟨prepared, hprepare, hc⟩ := map_eq_ok_iff.mp hcursor
  have hprepared : c.query.eager = [] := by
    rw [← hc]
    exact (Query.reads_of_prepare hprepare).2.2.trans heager
  have hlimit : c.initial.limit = c.query.limit := by rw [← hc]
  have hstart : After conn.config c.query pages 0 c :=
    .start conn.config c.query pages rfl hlimit (by rw [← hc]) (by rw [← hc])
  refine ⟨fun {k} hends hfirst => ?_, fun hcalls => ?_, fun _ hcall => ?_, ?_⟩
  · obtain ⟨deliveries, results, c', w', hcalls, -, hresults, hflatten, hafter, -, hsent⟩ :=
      exists_calls hstart hprepared hw hserver k hfirst
    obtain rfl | ⟨-, rfl⟩ := hresults
    · -- The last response delivered records, so it takes one more call to know that it was the
      -- last.
      have hcall : (conn.nextPage c').run w' = ((c'.exhaust, .ok none), w') := by
        rw [nextPage, Cursor.nextPage_eq, hafter.advance?_eq_none hends]
        rfl
      exact ⟨deliveries, _, _, hcalls.call hcall, hflatten, hsent⟩
    · exact ⟨deliveries, _, _, hcalls, hflatten, hsent⟩
  · obtain ⟨hcount, hle⟩ := hcalls.counted
    have hzero : c.fetched = 0 := by rw [← hc]
    rw [hzero, Nat.zero_add] at hcount
    exact ⟨hcount, fun limit hq => hle limit (hlimit.trans hq) (hzero ▸ Nat.zero_le limit)⟩
  · have hstate := state_of_nextPage_none hcall
    exact ⟨hstate, nextPage_of_exhausted conn hstate⟩
  · cases hd : c.query.describe conn.catalog conn.config [] with
    | error e =>
      exact ⟨"", [], fun hcalls =>
        World.adds_of_sent_eq (hcalls.sent_eq_of_describe_error hd)⟩
    | ok d => exact ⟨d.uri, d.clauses.fixedPairs, fun hcalls => hcalls.adds hprepared hd⟩

/-- A server that answers with the same two records whatever page is asked for, and tells each time
that there are more. Three records take two requests. -/
theorem calls_delivers_repeated_page :
    let response : Response :=
      { status := 200
        headers := [("x-pagination-current-page", "1"), ("x-pagination-page-count", "3")]
        body := .list [.object [("id", .nat 1)], .object [("id", .nat 2)]] }
    let conn : Connection Unit :=
      { catalog := [], config := {}, auth := .none, answer := fun _ w => (.ok response, w)
        pageBudget := 1 }
    let track : Schema := { typeName := "Track", fields := ["id"] }
    let q : Query := { schema := some track, limit := some 3 }
    let c : Cursor := { query := q, initial := ⟨some 3, none, none⟩ }
    let model (id : Nat) : Model :=
      { schema := track, attributes := [("id", .nat id)], snapshot := some [("id", .nat id)]
        related := [] }
    let pages : Nat → Reading := fun _ => ⟨response, [model 1, model 2]⟩
    let w : World Unit := { backend := () }
    (conn.cursor q = .ok c ∧ q.eager = [] ∧ w.Open ∧ conn.Answers c w pages) ∧
      (Ends conn.config c.query pages 2 ∧ ∀ m < 2, ¬ Ends conn.config c.query pages m) ∧
      c.query.upToLimit (received pages 2) = [model 1, model 2, model 1] ∧
      conn.Delivers c w pages := by
  intro response conn track q c model pages w
  have hcursor : conn.cursor q = .ok c := rfl
  have hserver : conn.Answers c w pages := by
    intro results c' w' asked hcalls hasked
    -- Whatever page is asked for, the query compiles, and the answer does not depend on it.
    obtain ⟨next, hnext, rfl⟩ := Option.map_eq_some_iff.mp hasked
    have hpage := (Cursor.advance?_frame hnext).1.trans hcalls.frame.1
    obtain ⟨perPage, page, hdescribe⟩ := hpage.describe_eq conn.catalog conn.config
    obtain ⟨d, hd⟩ : ∃ d, q.describe conn.catalog conn.config [] = .ok d := ⟨_, rfl⟩
    obtain ⟨request, hrequest⟩ : ∃ request, next.pageRequest conn = .ok request := by
      rw [Cursor.pageRequest, hdescribe, hd]
      exact ⟨_, rfl⟩
    exact ⟨request, hrequest, rfl, rfl⟩
  have hends : Ends conn.config c.query pages 2 := .limit rfl (by decide)
  have hfirst : ∀ m < 2, ¬ Ends conn.config c.query pages m := by
    intro m hm hends
    have hcount : (received pages m).length < 3 := by
      obtain rfl | rfl : m = 0 ∨ m = 1 := by omega
      · decide
      · decide
    cases hends with
    | limit hlimit hreached =>
      cases hlimit
      omega
    | empty hempty => cases hempty
    | last hlast =>
      revert hlast
      decide +kernel
    | @far n current hcurrent hfar =>
      obtain rfl : n = 0 := by omega
      obtain rfl : 1 = current := by
        have hone : ((pages 0).info conn.config).currentPage = some 1 := by decide +kernel
        exact Option.some.inj (hone.symm.trans hcurrent)
      revert hfar
      decide +kernel
  have hopen : w.Open := ⟨rfl, rfl⟩
  exact ⟨⟨hcursor, rfl, hopen, hserver⟩, ⟨hends, hfirst⟩, rfl,
    calls_delivers hcursor rfl hopen hserver⟩

end Connection

end RestQuery
