import RestQuery.Proofs.Page.Next
import RestQuery.Proofs.Query.Joined

/-!
# When a cursor comes to an end

Which page a cursor asks for is told by the last response alone (`Visit.Follows`), and nothing else
keeps it from asking for one page again: `Cursor.visits_repeat` is a server that is asked for the
same page as long as there are calls. `Cursor.visits` lists the pages that some calls ask for, with
what was told of them.

A response leads on if it tells no page before the one that was asked for, and no size that makes
the next start before the page told of (`Visit.LeadsOn`). Where all responses do, the numbers of
the pages grow from one to the next (`Visit.page_lt`), so no request is made twice, and there are
no more requests than pages told of. Calls for the next page then run out (`Cursor.RunsOut`), and
the loop that drains the cursor ends as they do. `Cursor.visits_advance` puts this together.
-/

namespace RestQuery

open Session Text

variable {σ : Type}

/-- The request for a page of a compiled query, which is told by its size and its number. -/
def Descriptor.pageRequest (d : Descriptor) (clauses : Option Nat × Option Nat) : Request :=
  ({ d with clauses := { d.clauses with perPage := clauses.1, page := clauses.2 } } :
    Descriptor).request .get

/-- Requests for pages of a query have the same pairs only if they are for the same page. -/
theorem Descriptor.eq_of_pageRequest_query {d : Descriptor}
    {clauses clauses' : Option Nat × Option Nat}
    (h : (d.pageRequest clauses).query = (d.pageRequest clauses').query) : clauses = clauses' := by
  simp only [pageRequest, request, Clauses.pairs_eq_append, Clauses.fixedPairs, List.append_assoc,
    List.append_cancel_left_eq] at h
  exact Prod.ext_iff.mpr (Clauses.pagePairs_injective h)

/-- A page that was asked for by a query, and what the response told of it. -/
structure Visit where
  query : Query
  info : Page.Info

/-- A page follows exactly if a current page below the number of pages is told. -/
theorem Page.Info.hasMore_iff {p : Page.Info} :
    p.hasMore = true ↔ ∃ current count, p.currentPage = some current ∧ p.pageCount = some count ∧
      current < count := by
  unfold hasMore
  split
  · rename_i current count hcurrent hcount
    simp [hcurrent, hcount]
  · rename_i hnone
    refine ⟨nofun, ?_⟩
    rintro ⟨current, count, hcurrent, hcount, -⟩
    exact absurd hcount (hnone current count hcurrent)

namespace Visit

/-- The request for the page, without the credential. -/
def request (conn : Connection σ) (v : Visit) : Except Error Request :=
  (v.query.describe conn.catalog conn.config []).map (·.request .get)

/-- The number of the page asked for; without one, it is the first. -/
def page (config : Config) (v : Visit) : Nat := (v.query.pageClauses config).2.getD 1

/-- The size in which the pages are counted: the one told, else the one of the query. -/
def size (config : Config) (v : Visit) : Nat :=
  (v.info.perPage <|> v.query.perPage).getD config.defaultPerPage

/-- The size in which the next page is asked for. -/
def nextSize (config : Config) (v : Visit) : Nat := v.query.sizeAskedFor config (v.size config)

/-- Whether a page is asked for after another: where that tells of a page to follow, the next is the
one at the end of the page told of. -/
def Follows (config : Config) (v v' : Visit) : Prop :=
  ∃ current count, v.info.currentPage = some current ∧ v.info.pageCount = some count ∧
    current < count ∧ current * v.size config ≤ maxWord64 ∧
    v'.query = v.query.withWindow (v.size config) (current * v.size config)

/-- Whether a response, if it tells of a page to follow, tells no page before the one asked for, and
leaves a page size that is positive and not greater than the one it counts in. -/
def LeadsOn (config : Config) (v : Visit) : Prop :=
  ∀ current count, v.info.currentPage = some current → v.info.pageCount = some count →
    current < count → v.page config ≤ current ∧ 0 < v.nextSize config ∧
      v.nextSize config ≤ v.size config

variable {config : Config} {v v' : Visit}

/-- Pages are counted from one. -/
theorem page_pos (config : Config) (v : Visit) : 0 < v.page config := by
  unfold page
  cases hoffset : v.query.offset with
  | none =>
    rw [Query.pageClauses_of_no_offset hoffset]
    exact Nat.one_pos
  | some offset =>
    rw [Query.pageClauses_of_offset hoffset]
    exact Nat.succ_pos _

/-- The page that follows is named by the number of sizes before it. -/
theorem Follows.pageClauses (h : Follows config v v') :
    ∃ current, v.info.currentPage = some current ∧ v'.query.pageClauses config =
      (some (v.nextSize config),
        some (current * v.size config / v.nextSize config + 1)) := by
  obtain ⟨current, count, hcurrent, -, -, -, hquery⟩ := h
  refine ⟨current, hcurrent, ?_⟩
  rw [hquery, Query.pageClauses_moved]
  rfl

/-- Behind a response that leads on, the page that follows has a greater number. -/
theorem page_lt (h : Follows config v v') (hleads : v.LeadsOn config) :
    v.page config < v'.page config := by
  obtain ⟨current, hcurrent, hclauses⟩ := h.pageClauses
  obtain ⟨current', count, hcurrent', hcount, hmore, -, -⟩ := h
  obtain rfl : current = current' := Option.some.inj (hcurrent.symm.trans hcurrent')
  obtain ⟨hpage, hpos, hle⟩ := hleads current count hcurrent hcount hmore
  -- Counted in a size that is not greater, there are as many pages at least up to the same row.
  have hends : current ≤ current * v.size config / v.nextSize config :=
    (Nat.le_div_iff_mul_le hpos).mpr (Nat.mul_le_mul_left _ hle)
  have hnumber : v'.page config = current * v.size config / v.nextSize config + 1 := by
    rw [page, hclauses]
    rfl
  omega

/-- The request for a page of a query that compiles is that of the query, but for the page. -/
theorem request_eq {conn : Connection σ} {q : Query} {d : Descriptor} (hpage : v.query.IsPageOf q)
    (hd : q.describe conn.catalog conn.config [] = .ok d) :
    v.request conn = .ok (d.pageRequest (v.query.pageClauses conn.config)) := by
  obtain ⟨perPage, page, hdescribe⟩ := hpage.describe_eq conn.catalog conn.config
  rw [hd] at hdescribe
  have hclauses : (perPage, page) = v.query.pageClauses conn.config :=
    Query.pageClauses_of_describe hdescribe
  rw [request, hdescribe, ← hclauses]
  rfl

variable {visits : List Visit}

/-- Along responses that lead on, the numbers of the pages grow. -/
theorem pages_increase (hchain : visits.IsChain (Follows config))
    (hleads : ∀ v ∈ visits, v.LeadsOn config) :
    visits.Pairwise (·.page config < ·.page config) := by
  induction visits with
  | nil => exact .nil
  | cons v rest ih =>
    obtain ⟨hlead, hleads⟩ := List.forall_mem_cons.mp hleads
    cases rest with
    | nil => exact List.pairwise_singleton _ _
    | cons v' rest =>
      obtain ⟨hfollows, hchain⟩ := List.isChain_cons_cons.mp hchain
      have hrest := ih hchain hleads
      have hnext := page_lt hfollows hlead
      refine List.pairwise_cons.mpr ⟨List.forall_mem_cons.mpr ⟨hnext, fun u hu => ?_⟩, hrest⟩
      exact Nat.lt_trans hnext ((List.pairwise_cons.mp hrest).1 u hu)

/-- Along responses that lead on, and tell of no more than so many pages, there are no more pages
behind the first than its number leaves. -/
theorem length_le_of_chain {most : Nat} (hchain : (v :: visits).IsChain (Follows config))
    (hleads : ∀ u ∈ v :: visits, u.LeadsOn config)
    (hmost : ∀ u ∈ v :: visits, ∀ count, u.info.pageCount = some count → count ≤ most) :
    visits = [] ∨ v.page config + visits.length ≤ most := by
  induction visits generalizing v with
  | nil => exact .inl rfl
  | cons v' rest ih =>
    obtain ⟨hfollows, hchain⟩ := List.isChain_cons_cons.mp hchain
    obtain ⟨hlead, hleads⟩ := List.forall_mem_cons.mp hleads
    obtain ⟨hcounts, hmost⟩ := List.forall_mem_cons.mp hmost
    refine .inr ?_
    rw [List.length_cons]
    obtain rfl | hle := ih hchain hleads hmost
    · obtain ⟨current, count, hcurrent, hcount, hmore, -, -⟩ := hfollows
      have hpage := (hlead current count hcurrent hcount hmore).1
      have hbound := hcounts count hcount
      rw [List.length_nil]
      omega
    · have hgrows := page_lt hfollows hlead
      omega

end Visit

/-! ## The pages that calls ask for -/

namespace Cursor

variable (conn : Connection σ) (load : Loader σ)

/-- The page that the cursor asks for, if it asks for one and is answered. -/
def visit? (c : Cursor) (w : World σ) : Option Visit :=
  match c.advance? conn.config with
  | none => none
  | some asked =>
    match (eval (asked.fetch conn) w).1 with
    | .ok response =>
      some ⟨asked.query, Page.Info.ofResponse conn.config.pageHeaders response⟩
    | .error _ => none

/-- The cursor and the world after a call, whatever it returns. -/
def after (c : Cursor) (w : World σ) : Call → Cursor × World σ
  | .page => (((c.nextPage conn load).run w).1.1, ((c.nextPage conn load).run w).2)
  | .row => (((c.nextRow conn load).run w).1.1, ((c.nextRow conn load).run w).2)

/-- The pages that some calls on a cursor ask for, up to the first that is not answered. A record
that is in hand is returned without a request. -/
def visits : List Call → Cursor → World σ → List Visit
  | [], _, _ => []
  | call :: rest, c, w =>
    let called := c.after conn load w call
    if call = .row ∧ ¬ c.buffer.isEmpty then visits rest called.1 called.2
    else match c.visit? conn w with
      | none => []
      | some v => v :: visits rest called.1 called.2

variable {conn load} {c : Cursor} {w : World σ} {v v' : Visit}

/-- A page that was asked for and answered. -/
theorem visit?_eq_some (h : c.visit? conn w = some v) :
    ∃ asked response w₁, c.advance? conn.config = some asked ∧
      eval (asked.fetch conn) w = (.ok response, w₁) ∧
      v = ⟨asked.query, Page.Info.ofResponse conn.config.pageHeaders response⟩ := by
  unfold visit? at h
  split at h
  · cases h
  rename_i asked hasked
  split at h
  · rename_i response hresponse
    exact ⟨asked, response, _, hasked, Prod.ext hresponse rfl, (Option.some.inj h).symm⟩
  · cases h

/-- The records in hand make no difference for the page that is asked for. -/
theorem visit?_holdingOnly (buffer : List Model) (nextIndex : Nat) (c : Cursor) (w : World σ) :
    (c.holdingOnly buffer nextIndex).visit? conn w = c.visit? conn w := by
  unfold visit?
  rw [advance?_holdingOnly]
  cases c.advance? conn.config with
  | none => rfl
  | some asked => rfl

/-- A record that is in hand is taken without a request. -/
theorem after_row_of_buffer (conn : Connection σ) (load : Loader σ) (h : ¬ c.buffer.isEmpty)
    (w : World σ) :
    ∃ buffer nextIndex, c.after conn load w .row = (c.holdingOnly buffer nextIndex, w) := by
  obtain ⟨m, rest, hbuffer⟩ := List.exists_cons_of_ne_nil (by simpa using h)
  obtain ⟨nextIndex, key, hout⟩ := handOut_holdingOnly rest c.nextIndex c m
  refine ⟨rest, nextIndex, ?_⟩
  rw [after, run_nextRow_of_hand conn load hbuffer, hout]

/-- With no record in hand, the next one is the first of the next page. -/
theorem after_row_of_empty (conn : Connection σ) (load : Loader σ) (h : c.buffer.isEmpty)
    (w : World σ) :
    ∃ buffer nextIndex, c.after conn load w .row =
      ((c.after conn load w .page).1.holdingOnly buffer nextIndex,
        (c.after conn load w .page).2) := by
  rw [after, after, run_nextRow_of_page conn load (List.isEmpty_iff.mp h)]
  rcases (c.nextPage conn load).run w with ⟨⟨c₁, e | _ | _ | ⟨m, rest⟩⟩, w₁⟩
  · exact ⟨c₁.buffer, c₁.nextIndex, rfl⟩
  · exact ⟨c₁.buffer, c₁.nextIndex, rfl⟩
  · exact ⟨c₁.buffer, c₁.nextIndex, rfl⟩
  · obtain ⟨nextIndex, key, hout⟩ := handOut_holdingOnly rest c₁.nextIndex c₁ m
    refine ⟨rest, nextIndex, ?_⟩
    dsimp only
    rw [hout]

/-- A cursor behind a page: it holds the query that asked for the page, and what was told of it. -/
structure Behind (v : Visit) (c : Cursor) : Prop where
  query : c.query = v.query
  page : c.page = some v.info
  state : c.state ≠ .fresh

/-- A call that is answered leaves the cursor behind the page. -/
theorem behind_after (h : c.visit? conn w = some v) :
    (c.after conn load w .page).1.Behind v := by
  obtain ⟨asked, response, w₁, hasked, hfetch, rfl⟩ := visit?_eq_some h
  have hstate : asked.state ≠ .fresh := by
    rw [state_asked hasked]
    exact nofun
  obtain ⟨hquery, -, hpage⟩ := frame_read load hfetch
  have hafter : (c.after conn load w .page).1 = ((asked.read conn load).run w).1.1 := by
    rw [after, nextPage_eq, hasked]
  rw [hafter]
  exact ⟨hquery, hpage, state_read hstate w⟩

/-- The records in hand make no difference for where a cursor is. -/
theorem Behind.holdingOnly (h : c.Behind v) (buffer : List Model) (nextIndex : Nat) :
    (c.holdingOnly buffer nextIndex).Behind v := ⟨h.query, h.page, h.state⟩

/-- The next page starts at the end of the page told of. -/
theorem exists_of_nextWindow? {config : Config} {size offset : Nat}
    (h : c.nextWindow? config = some (size, offset)) :
    ∃ page current count, c.page = some page ∧ page.currentPage = some current ∧
      page.pageCount = some count ∧ current < count ∧
      size = (page.perPage <|> c.query.perPage).getD config.defaultPerPage ∧
      current * size ≤ maxWord64 ∧ offset = current * size := by
  cases hpage : c.page with
  | none =>
    rw [nextWindow?, hpage] at h
    cases h
  | some page =>
    by_cases hmore : page.hasMore = true
    · obtain ⟨current, count, hcurrent, hcount, hless⟩ := Page.Info.hasMore_iff.mp hmore
      rw [nextWindow?_of_page hpage hmore hcurrent rfl] at h
      split at h
      · rename_i hword
        cases h
        refine ⟨page, current, count, rfl, hcurrent, hcount, hless, ?_, hword, rfl⟩
        cases page.perPage <;> rfl
      · cases h
    · have hnone : ∀ perPage, ({ page with perPage := perPage } : Page.Info).nextOffset? = none :=
        fun _ => if_neg hmore
      simp only [nextWindow?, hpage, Option.bind_eq_bind, Option.bind_some, hnone,
        Option.bind_none] at h
      cases h

/-- Behind a page, the next one follows. -/
theorem Behind.follows (hbehind : c.Behind v) (h : c.visit? conn w = some v') :
    v.Follows conn.config v' := by
  obtain ⟨asked, response, w₁, hasked, -, rfl⟩ := visit?_eq_some h
  obtain ⟨-, ⟨hfresh, -⟩ | ⟨-, size, offset, hwindow, rfl⟩⟩ := advance?_cases hasked
  · exact absurd hfresh hbehind.state
  obtain ⟨page, current, count, hpage, hcurrent, hcount, hmore, hsize, hword, rfl⟩ :=
    exists_of_nextWindow? hwindow
  obtain rfl : page = v.info := Option.some.inj (hpage.symm.trans hbehind.page)
  have hsize : size = v.size conn.config := by
    rw [hsize, hbehind.query]
    rfl
  refine ⟨current, count, hcurrent, hcount, hmore, hsize ▸ hword, ?_⟩
  rw [← hsize, ← hbehind.query]
  rfl

/-- A call takes a record that is in hand, or asks for a page and leaves the cursor behind it, or it
is the last that is looked at. -/
theorem visits_cons (conn : Connection σ) (load : Loader σ) (call : Call) (rest : List Call)
    (c : Cursor) (w : World σ) :
    (∃ buffer nextIndex, c.visits conn load (call :: rest) w =
        (c.holdingOnly buffer nextIndex).visits conn load rest w) ∨
      c.visits conn load (call :: rest) w = [] ∨
      ∃ (v : Visit) (c' : Cursor) (w' : World σ), c.visit? conn w = some v ∧ c'.Behind v ∧
        c.visits conn load (call :: rest) w = v :: c'.visits conn load rest w' := by
  rw [visits]
  split
  · rename_i hheld
    obtain ⟨rfl, hbuffer⟩ := hheld
    obtain ⟨buffer, nextIndex, hafter⟩ := after_row_of_buffer conn load hbuffer w
    rw [hafter]
    exact .inl ⟨buffer, nextIndex, rfl⟩
  · rename_i hheld
    cases hvisit : c.visit? conn w with
    | none => exact .inr (.inl rfl)
    | some v =>
      refine .inr (.inr ⟨v, _, _, rfl, ?_, rfl⟩)
      cases call with
      | page => exact behind_after hvisit
      | row =>
        have hempty : c.buffer.isEmpty = true := by simpa using hheld
        obtain ⟨buffer, nextIndex, hafter⟩ := after_row_of_empty conn load hempty w
        rw [hafter]
        exact (behind_after hvisit).holdingOnly buffer nextIndex

/-- Pages follow on each other. -/
theorem isChain_visits (conn : Connection σ) (load : Loader σ) {calls : List Call} {c : Cursor}
    {v : Visit} (hbehind : c.Behind v) (w : World σ) :
    (v :: c.visits conn load calls w).IsChain (Visit.Follows conn.config) := by
  induction calls generalizing c v w with
  | nil => exact .singleton _
  | cons call rest ih =>
    obtain ⟨buffer, nextIndex, heq⟩ | heq | ⟨v', c', w', hvisit, hbehind', heq⟩ :=
      visits_cons conn load call rest c w
    · rw [heq]
      exact ih (hbehind.holdingOnly buffer nextIndex) w
    · rw [heq]
      exact .singleton _
    · rw [heq]
      exact List.isChain_cons_cons.mpr ⟨hbehind.follows hvisit, ih hbehind' w'⟩

/-- The first page that a fresh cursor asks for is that of its query, and the others follow. -/
theorem visits_of_fresh (conn : Connection σ) (load : Loader σ) (calls : List Call) {c : Cursor}
    (hfresh : c.state = .fresh) (w : World σ) :
    (∀ v ∈ (c.visits conn load calls w).head?, v.query = c.query) ∧
      (c.visits conn load calls w).IsChain (Visit.Follows conn.config) := by
  induction calls generalizing c w with
  | nil => rw [visits]; exact ⟨by simp, .nil⟩
  | cons call rest ih =>
    obtain ⟨buffer, nextIndex, heq⟩ | heq | ⟨v, c', w', hvisit, hbehind, heq⟩ :=
      visits_cons conn load call rest c w
    · rw [heq]
      exact ih (c := c.holdingOnly buffer nextIndex) hfresh w
    · rw [heq]
      exact ⟨by simp, .nil⟩
    · rw [heq]
      refine ⟨fun u hu => ?_, isChain_visits conn load hbehind w'⟩
      obtain rfl := Option.some.inj hu
      obtain ⟨asked, response, w₁, hasked, -, rfl⟩ := visit?_eq_some hvisit
      obtain ⟨-, ⟨-, rfl⟩ | ⟨hfetching, -⟩⟩ := advance?_cases hasked
      · rfl
      · rw [hfresh] at hfetching
        cases hfetching

/-- All pages are pages of the query, which compiles if there are any. -/
theorem frame_visits (conn : Connection σ) (load : Loader σ) (calls : List Call) (c : Cursor)
    (w : World σ) :
    ∀ v ∈ c.visits conn load calls w, v.query.IsPageOf c.query ∧
      ∃ d, c.query.describe conn.catalog conn.config [] = .ok d := by
  induction calls generalizing c w with
  | nil => rw [visits]; exact List.forall_mem_nil _
  | cons call rest ih =>
    obtain ⟨buffer, nextIndex, heq⟩ | heq | ⟨v, c', w', hvisit, hbehind, heq⟩ :=
      visits_cons conn load call rest c w
    · rw [heq]
      exact ih (c.holdingOnly buffer nextIndex) w
    · rw [heq]
      exact List.forall_mem_nil _
    · rw [heq]
      obtain ⟨asked, response, w₁, hasked, hfetch, rfl⟩ := visit?_eq_some hvisit
      have hpage := (advance?_frame hasked).1
      have hcompiles : ∃ d, c.query.describe conn.catalog conn.config [] = .ok d := by
        obtain ⟨d, hd⟩ := exists_describe hfetch
        obtain ⟨perPage, page, hdescribe⟩ := hpage.describe_eq conn.catalog conn.config
        obtain ⟨d, hd, -⟩ := map_eq_ok_iff.mp (hdescribe.symm.trans hd)
        exact ⟨d, hd⟩
      refine List.forall_mem_cons.mpr ⟨⟨hpage, hcompiles⟩, fun u hu => ⟨?_, hcompiles⟩⟩
      exact (hbehind.query ▸ (ih c' w' u hu).1).trans hpage

/-- Along responses that lead on, no page is asked for twice. -/
theorem nodup_requests (conn : Connection σ) (load : Loader σ) {calls : List Call} {c : Cursor}
    (hfresh : c.state = .fresh) (w : World σ)
    (hleads : ∀ v ∈ c.visits conn load calls w, v.LeadsOn conn.config) :
    ((c.visits conn load calls w).map fun v =>
      (v.request conn).map fun r => (r.path, r.query)).Nodup := by
  have hpages := Visit.pages_increase (visits_of_fresh conn load calls hfresh w).2 hleads
  have hframe := frame_visits conn load calls c w
  refine List.pairwise_map.mpr (hpages.imp_of_mem fun {v v'} hv hv' hless hsame => ?_)
  obtain ⟨hpage, d, hd⟩ := hframe v hv
  rw [Visit.request_eq hpage hd, Visit.request_eq (hframe v' hv').1 hd] at hsame
  have hclauses := Descriptor.eq_of_pageRequest_query (congrArg Prod.snd (Except.ok.inj hsame))
  rw [Visit.page, Visit.page, hclauses] at hless
  exact Nat.lt_irrefl _ hless

/-- Along responses that lead on, there are no more pages than are told of, if any are. -/
theorem length_visits_le (conn : Connection σ) (load : Loader σ) {calls : List Call} {c : Cursor}
    (hfresh : c.state = .fresh) (w : World σ) {most : Nat}
    (hall : ∀ v ∈ c.visits conn load calls w, v.LeadsOn conn.config ∧
      ∀ count, v.info.pageCount = some count → count ≤ most) :
    (c.visits conn load calls w).length ≤ max 1 most := by
  have hchain := (visits_of_fresh conn load calls hfresh w).2
  generalize c.visits conn load calls w = visits at hchain hall ⊢
  cases visits with
  | nil => exact Nat.zero_le _
  | cons v rest =>
    rw [List.length_cons]
    obtain rfl | hle := Visit.length_le_of_chain hchain (fun u hu => (hall u hu).1)
      fun u hu => (hall u hu).2
    · exact Nat.le_max_left _ _
    · have hpos := v.page_pos conn.config
      omega

/-! ## Draining a cursor -/

/-- The records in hand make no difference for the pages that are asked for one after another. -/
theorem visits_holdingOnly (conn : Connection σ) (load : Loader σ) (n : Nat) (buffer : List Model)
    (nextIndex : Nat) (c : Cursor) (w : World σ) :
    (c.holdingOnly buffer nextIndex).visits conn load (List.replicate n .page) w =
      c.visits conn load (List.replicate n .page) w := by
  induction n generalizing c w with
  | zero => rfl
  | succ n ih =>
    have hafter : (c.holdingOnly buffer nextIndex).after conn load w .page =
        ((c.after conn load w .page).1.holdingOnly buffer nextIndex,
          (c.after conn load w .page).2) := by
      rw [after, run_nextPage_holdingOnly]
      rfl
    rw [List.replicate_succ, visits, visits, if_neg (by simp), if_neg (by simp), hafter,
      visit?_holdingOnly]
    dsimp only
    rw [ih]

/-- If so many calls ask for fewer pages, then any number of calls asks for these at most. -/
theorem mem_visits_of_length_lt {k n : Nat}
    (hfewer : (c.visits conn load (List.replicate k .page) w).length < k)
    (hv : v ∈ c.visits conn load (List.replicate n .page) w) :
    v ∈ c.visits conn load (List.replicate k .page) w := by
  induction k generalizing n c w with
  | zero => cases hfewer
  | succ k ih =>
    cases n with
    | zero => simp [visits] at hv
    | succ n =>
      rw [List.replicate_succ, visits, if_neg (by simp)] at hv hfewer ⊢
      cases hvisit : c.visit? conn w with
      | none =>
        rw [hvisit] at hv
        exact absurd hv List.not_mem_nil
      | some u =>
        simp only [hvisit, List.length_cons, List.mem_cons] at hv hfewer ⊢
        exact hv.imp_right fun hrest => ih (Nat.lt_of_succ_lt_succ hfewer) hrest

/-- Handing out records leaves a cursor the same but for the number of the next. -/
theorem exists_labelAll_eq (c : Cursor) (models : List Model) :
    ∃ nextIndex, (c.labelAll models).1 = c.holdingOnly c.buffer nextIndex := by
  induction models generalizing c with
  | nil => exact ⟨c.nextIndex, rfl⟩
  | cons m rest ih =>
    obtain ⟨nextIndex, heq⟩ := ih (c.label m).1
    refine ⟨nextIndex, heq.trans ?_⟩
    unfold label
    split <;> rfl

/-- A call that returns a page asked for one, and was answered. -/
theorem exists_visit? {c' : Cursor} {models : List Model} {w' : World σ}
    (h : (c.nextPage conn load).run w = ((c', .ok (some models)), w')) :
    ∃ v, c.visit? conn w = some v := by
  rw [nextPage_eq] at h
  rw [visit?]
  cases hasked : c.advance? conn.config with
  | none =>
    rw [hasked] at h
    cases h
  | some asked =>
    rw [hasked] at h
    dsimp only at h ⊢
    rw [run_read] at h
    rcases hfetch : eval (asked.fetch conn) w with ⟨e | response, w₁⟩
    · rw [hfetch] at h
      cases h
    · exact ⟨_, rfl⟩

/-- A round of the loop hands out the records in hand, and then asks for the next page as a call on
the cursor does. -/
theorem eval_drain_nextPage (conn : Connection σ) (load : Loader σ) (records : RecordSet)
    (c : Cursor) (w : World σ) :
    ∃ nextIndex records', ∀ budget, eval (c.drain conn load records (budget + 1)) w =
      match (c.nextPage conn load).run w with
      | ((_, .error e), after) => (.error e, after)
      | ((_, .ok none), after) => (.ok records', after)
      | ((c', .ok (some models)), after) =>
        eval ((c'.holdingOnly models nextIndex).drain conn load records' budget) after := by
  obtain ⟨nextIndex, hhanded⟩ := exists_labelAll_eq { c with buffer := [] } c.buffer
  refine ⟨nextIndex, records.insertAll (({ c with buffer := [] } : Cursor).labelAll c.buffer).2,
    fun budget => ?_⟩
  rw [drain]
  generalize ({ c with buffer := [] } : Cursor).labelAll c.buffer = handed at hhanded ⊢
  obtain ⟨handed, rows⟩ := handed
  obtain rfl : handed = c.holdingOnly [] nextIndex := hhanded
  have hlift : eval (ExceptT.lift ((c.holdingOnly [] nextIndex).nextPage conn load) :
      Session σ _) w =
      (.ok (((c.holdingOnly [] nextIndex).nextPage conn load).run w).1,
        (((c.holdingOnly [] nextIndex).nextPage conn load).run w).2) := rfl
  show eval (ExceptT.lift ((c.holdingOnly [] nextIndex).nextPage conn load) >>= _) w = _
  rw [eval_bind_ok hlift, run_nextPage_holdingOnly]
  rcases (c.nextPage conn load).run w with ⟨⟨c', _ | _ | models⟩, after⟩ <;> rfl

/-- Calls for the next page, made one after another up to the first that returns none, be it that
there is none left or that the call fails: how many of them return a page, how the last one ends,
and the world after it. -/
inductive RunsOut (conn : Connection σ) (load : Loader σ) :
    Cursor → World σ → Nat → Except Error Unit → World σ → Prop where
  | last {c c' : Cursor} {w after : World σ} {ending : Except Error Unit}
      (h : (c.nextPage conn load).run w = ((c', ending.map fun _ => none), after)) :
      RunsOut conn load c w 0 ending after
  | page {c c' : Cursor} {w w' after : World σ} {models : List Model} {count : Nat}
      {ending : Except Error Unit}
      (h : (c.nextPage conn load).run w = ((c', .ok (some models)), w'))
      (hrest : RunsOut conn load c' w' count ending after) :
      RunsOut conn load c w (count + 1) ending after

/-- The records in hand make no difference for how the pages run out. -/
theorem RunsOut.of_holdingOnly {buffer : List Model} {nextIndex count : Nat}
    {ending : Except Error Unit} {after : World σ}
    (h : RunsOut conn load (c.holdingOnly buffer nextIndex) w count ending after) :
    RunsOut conn load c w count ending after := by
  generalize hheld : c.holdingOnly buffer nextIndex = held at h
  -- A call leaves in hand what was there, so the cursors stay apart by that alone.
  induction h generalizing c with
  | last hcall =>
    rw [← hheld, run_nextPage_holdingOnly] at hcall
    obtain ⟨hresult, hworld⟩ := Prod.mk.inj hcall
    exact .last (Prod.ext (Prod.ext rfl (Prod.mk.inj hresult).2) hworld)
  | page hcall _ ih =>
    rw [← hheld, run_nextPage_holdingOnly] at hcall
    obtain ⟨hresult, hworld⟩ := Prod.mk.inj hcall
    obtain ⟨hcursor, hmodels⟩ := Prod.mk.inj hresult
    exact .page (Prod.ext (Prod.ext rfl hmodels) hworld) (ih hcursor)

/-- A round of the loop ends it as a call for the next page does that returns none, or goes on
behind a page that was asked for. -/
theorem eval_drain_round (conn : Connection σ) (load : Loader σ) (records : RecordSet) (c : Cursor)
    (w : World σ) :
    (∃ (ending : Except Error Unit) (after : World σ) (result : RecordSet),
        RunsOut conn load c w 0 ending after ∧
        ∀ budget, eval (c.drain conn load records (budget + 1)) w =
          (ending.map fun _ => result, after)) ∨
      ∃ (v : Visit) (c' : Cursor) (models : List Model) (nextIndex : Nat) (records' : RecordSet)
        (w' : World σ),
        (c.nextPage conn load).run w = ((c', .ok (some models)), w') ∧
        (∀ budget, eval (c.drain conn load records (budget + 1)) w =
          eval ((c'.holdingOnly models nextIndex).drain conn load records' budget) w') ∧
        ∀ n, c.visits conn load (List.replicate (n + 1) .page) w =
          v :: c'.visits conn load (List.replicate n .page) w' := by
  obtain ⟨nextIndex, records', hround⟩ := eval_drain_nextPage conn load records c w
  -- The call fails, returns none, or returns a page; only then there is another round.
  rcases hcall : (c.nextPage conn load).run w with ⟨⟨c', e | _ | models⟩, w'⟩
  · exact .inl ⟨.error e, w', records', .last hcall, fun budget => by rw [hround, hcall]; rfl⟩
  · exact .inl ⟨.ok (), w', records', .last hcall, fun budget => by rw [hround, hcall]; rfl⟩
  · obtain ⟨v, hvisit⟩ := exists_visit? hcall
    have hafter : c.after conn load w .page = (c', w') := by rw [after, hcall]
    refine .inr ⟨v, c', models, nextIndex, records', w', rfl, fun budget => ?_, fun n => ?_⟩
    · rw [hround, hcall]
    · rw [List.replicate_succ, visits, if_neg (by simp), hvisit, hafter]

/-- Where there are only so many pages to ask for, the calls for the next page run out after no more
of them, and a loop that may read more ends as the last of these calls does. -/
theorem runsOut_of_length_visits {most : Nat}
    (hmost : ∀ n, (c.visits conn load (List.replicate n .page) w).length ≤ most)
    (records : RecordSet) :
    ∃ count ending after result, count ≤ most ∧ RunsOut conn load c w count ending after ∧
      ∀ budget, most < budget →
        eval (c.drain conn load records budget) w = (ending.map fun _ => result, after) := by
  -- Each round that goes on uses up one of the pages there are, and one of the budget.
  induction most generalizing c w records with
  | zero =>
    obtain ⟨ending, after, result, hlast, hends⟩ | ⟨v, c', _, _, _, w', -, -, hvisits⟩ :=
      eval_drain_round conn load records c w
    · refine ⟨0, ending, after, result, Nat.le_refl 0, hlast, fun budget hbudget => ?_⟩
      obtain ⟨budget, rfl⟩ := Nat.exists_eq_add_one_of_ne_zero (Nat.ne_zero_of_lt hbudget)
      exact hends budget
    · have hone := hmost 1
      rw [hvisits 0] at hone
      cases hone
  | succ most ih =>
    obtain ⟨ending, after, result, hlast, hends⟩ |
        ⟨v, c', models, nextIndex, records', w', hcall, hgoes, hvisits⟩ :=
      eval_drain_round conn load records c w
    · refine ⟨0, ending, after, result, Nat.zero_le _, hlast, fun budget hbudget => ?_⟩
      obtain ⟨budget, rfl⟩ := Nat.exists_eq_add_one_of_ne_zero (Nat.ne_zero_of_lt hbudget)
      exact hends budget
    · have hrest (n : Nat) : ((c'.holdingOnly models nextIndex).visits conn load
          (List.replicate n .page) w').length ≤ most := by
        have hlonger := hmost (n + 1)
        rw [hvisits, List.length_cons] at hlonger
        rw [visits_holdingOnly]
        exact Nat.le_of_succ_le_succ hlonger
      obtain ⟨count, ending, after, result, hcount, hruns, hends⟩ := ih hrest records'
      refine ⟨count + 1, ending, after, result, Nat.succ_le_succ hcount,
        .page hcall hruns.of_holdingOnly, fun budget hbudget => ?_⟩
      obtain ⟨budget, rfl⟩ := Nat.exists_eq_add_one_of_ne_zero (Nat.ne_zero_of_lt hbudget)
      rw [hgoes]
      exact hends budget (Nat.lt_of_succ_lt_succ hbudget)

/-! ## The pages of a fresh cursor -/

/-- How a cursor goes through the pages of its query, whatever calls are made on it. -/
structure Advances (conn : Connection σ) (load : Loader σ) (c : Cursor) (w : World σ) : Prop where
  /-- It asks for the page of its query, and then for those that the responses tell of. -/
  first : ∀ calls, ∀ v ∈ (c.visits conn load calls w).head?, v.query = c.query
  follows : ∀ calls, (c.visits conn load calls w).IsChain (Visit.Follows conn.config)
  requests : ∀ calls, ∀ v ∈ c.visits conn load calls w,
    ∃ d, c.query.describe conn.catalog conn.config [] = .ok d ∧
      v.request conn = .ok (d.pageRequest (v.query.pageClauses conn.config))
  /-- While the responses lead on, no path is asked for twice with the same pairs, and no more pages
  than are told of, if any are. -/
  apart : ∀ calls, (∀ v ∈ c.visits conn load calls w, v.LeadsOn conn.config) →
    ((c.visits conn load calls w).map fun v =>
      (v.request conn).map fun r => (r.path, r.query)).Nodup
  bounded : ∀ calls most, (∀ v ∈ c.visits conn load calls w, v.LeadsOn conn.config ∧
      ∀ count, v.info.pageCount = some count → count ≤ most) →
    (c.visits conn load calls w).length ≤ max 1 most
  /-- Calls for the next page then run out after no more pages, and draining it ends as the last of
  them does: with the records, or with the error of that call, and never for want of pages that may
  be read. -/
  ends : ∀ most, (∀ n, ∀ v ∈ c.visits conn load (List.replicate n .page) w,
      v.LeadsOn conn.config ∧ ∀ count, v.info.pageCount = some count → count ≤ most) →
    ∀ records, ∃ count ending after result, count ≤ max 1 most ∧
      c.RunsOut conn load w count ending after ∧ ∀ budget, max 1 most < budget →
        eval (c.drain conn load records budget) w = (ending.map fun _ => result, after)

/-- A cursor that was made or reset advances through the pages of its query. -/
theorem visits_advance (conn : Connection σ) (load : Loader σ) {c : Cursor}
    (hfresh : c.state = .fresh) (w : World σ) : c.Advances conn load w where
  first calls := (visits_of_fresh conn load calls hfresh w).1
  follows calls := (visits_of_fresh conn load calls hfresh w).2
  requests calls v hv := by
    obtain ⟨hpage, d, hd⟩ := frame_visits conn load calls c w v hv
    exact ⟨d, hd, Visit.request_eq hpage hd⟩
  apart calls hleads := nodup_requests conn load hfresh w hleads
  bounded calls most hall := length_visits_le conn load hfresh w hall
  ends most hall records :=
    runsOut_of_length_visits (fun n => length_visits_le conn load hfresh w (hall n)) records

/-- A server that tells two pages of one track each, the second to whoever asks for a page. -/
theorem visits_advance_two_pages :
    let track : Schema := { typeName := "Track", fields := ["id"] }
    let reply (page : String) (id : Nat) : Response :=
      { status := 200
        headers := [("x-pagination-current-page", page), ("x-pagination-page-count", "2"),
          ("x-pagination-per-page", "1")]
        body := .list [.object [("id", .nat id)]] }
    let conn : Connection Unit :=
      { catalog := [track], config := {}, auth := .none, pageBudget := 3
        answer := fun r w => (.ok (if r.query.isEmpty then reply "1" 7 else reply "2" 8), w) }
    let c : Cursor := { query := .of track, initial := ⟨none, none, none⟩ }
    let w : World Unit := { backend := () }
    c.state = .fresh ∧
      (∀ n, ∀ v ∈ c.visits conn pure (List.replicate n .page) w,
        v.LeadsOn conn.config ∧ ∀ count, v.info.pageCount = some count → count ≤ 2) ∧
      c.Advances conn pure w := by
  intro track reply conn c w
  have hfresh : c.state = .fresh := rfl
  refine ⟨hfresh, fun n => ?_, visits_advance conn pure hfresh w⟩
  let told (v : Visit) := (v.info, v.page conn.config, v.size conn.config, v.nextSize conn.config)
  have hthree : (c.visits conn pure (List.replicate 3 .page) w).map told =
      [(⟨some 1, some 1, some 2, none⟩, 1, 1, 1), (⟨some 1, some 2, some 2, none⟩, 2, 1, 1)] := by
    decide +kernel
  have hfewer : (c.visits conn pure (List.replicate 3 .page) w).length < 3 := by
    rw [← List.length_map told, hthree]
    decide
  intro v hv
  have hmem := List.mem_map_of_mem (f := told) (mem_visits_of_length_lt hfewer hv)
  rw [hthree] at hmem
  have hleads : ∀ k, told v = (⟨some 1, some k, some 2, none⟩, k, 1, 1) →
      v.LeadsOn conn.config ∧ ∀ count, v.info.pageCount = some count → count ≤ 2 := by
    intro k htold
    simp only [told, Prod.mk.injEq] at htold
    obtain ⟨hinfo, hpage, hsize, hnext⟩ := htold
    unfold Visit.LeadsOn
    rw [hinfo, hpage, hsize, hnext]
    refine ⟨fun current count hcurrent _ _ => ⟨?_, by decide, by decide⟩, fun count hcount => ?_⟩
    · exact Nat.le_of_eq (Option.some.inj hcurrent)
    · exact Nat.le_of_eq (Option.some.inj hcount).symm
  rcases List.mem_cons.mp hmem with htold | hmem
  · exact hleads 1 htold
  · exact hleads 2 (List.mem_singleton.mp hmem)

/-- A server that tells the first of two pages, whatever it is asked for, is asked for the second
again and again. -/
theorem visits_repeat :
    let track : Schema := { typeName := "Track", fields := ["id"] }
    let response : Response :=
      { status := 200
        headers := [("x-pagination-current-page", "1"), ("x-pagination-page-count", "2"),
          ("x-pagination-per-page", "1")]
        body := .list [.object [("id", .nat 1)]] }
    let conn : Connection Unit :=
      { catalog := [track], config := {}, auth := .none, pageBudget := 10
        answer := fun _ w => (.ok response, w) }
    let c : Cursor := { query := .of track, initial := ⟨none, none, none⟩ }
    let w : World Unit := { backend := () }
    let requests := (c.visits conn pure [.page, .page, .page] w).map fun v =>
      (v.request conn).map fun r => (r.path, r.query)
    conn.cursor (.of track) = .ok c ∧
      requests = [.ok ("tracks", []), .ok ("tracks", [("per-page", "1"), ("page", "2")]),
        .ok ("tracks", [("per-page", "1"), ("page", "2")])] ∧
      ¬ requests.Nodup ∧
      (eval (c.collect conn pure) w).1.map (·.models.length) = .error .unfinished := by
  intro track response conn c w requests
  have hcursor : conn.cursor (.of track) = .ok c := rfl
  exact ⟨hcursor, by decide +kernel, by decide +kernel, by decide +kernel⟩

end Cursor

end RestQuery
