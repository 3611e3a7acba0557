import RestQuery.Config.Validate
import RestQuery.Page.Provider
import RestQuery.Proofs.Page.Reset
import RestQuery.Proofs.Query.StoredRead

/-!
# The page sizes that are asked for

A page size that a query gives, be it its own, its limit or one that a server told, is taken only if
the connection allows it (`Query.le_of_mem_ownPageSize?`). Where none is, and the query has an
offset, the usual page size is asked for, and nothing compares it with the greatest: a configuration
is accepted whatever its usual page size is. So a request asks for more than the greatest page size
exactly in this case (`Query.exceeds_iff`), and then for the usual one.

`Connection.sized_requests` says so of every request that is sent for pages: for a query or a
listing, for each call on a cursor, and for the relations that are loaded. What a server tells only
comes in as the window of a later page, which is a query like any other, so the one place where
pages are asked for (`Connection.sends_sized`) covers them all.
-/

namespace RestQuery

open Session

namespace Query

variable {config : Config} {q : Query} {size : Nat}

/-- A query asks for no more than the greatest page size itself. -/
theorem le_of_mem_ownPageSize? (h : size ∈ q.ownPageSize? config) : size ≤ config.maxPerPage := by
  rcases Option.or_eq_some_iff.mp h with hsize | ⟨-, hlimit⟩
  · exact of_decide_eq_true (Option.filter_eq_some_iff.mp hsize).2
  · exact Nat.le_of_lt (of_decide_eq_true (Option.filter_eq_some_iff.mp hlimit).2)

/-- A query asks for no page size itself if its own is too great, and so is its limit. -/
theorem ownPageSize?_eq_none_iff : q.ownPageSize? config = none ↔
    (∀ size ∈ q.perPage, config.maxPerPage < size) ∧
      ∀ limit ∈ q.limit, config.maxPerPage ≤ limit := by
  simp only [ownPageSize?, Option.or_eq_none_iff, Option.filter_eq_none_iff, decide_eq_true_eq,
    Nat.not_le, Nat.not_lt, Option.mem_def]

/-- Whether a query is read with the usual page size although that exceeds the greatest: its offset
asks for a page, and neither its page size nor its limit is one to take. -/
structure Exceeds (config : Config) (q : Query) : Prop where
  usual : config.maxPerPage < config.defaultPerPage
  offset : q.offset ≠ none
  perPage : ∀ size ∈ q.perPage, config.maxPerPage < size
  limit : ∀ limit ∈ q.limit, config.maxPerPage ≤ limit

/-- A page size is at most the greatest, or it is the usual one, beside a page. -/
theorem size_cases (h : size ∈ (q.pageClauses config).1) :
    size ≤ config.maxPerPage ∨
      q.ownPageSize? config = none ∧ q.offset ≠ none ∧ size = config.defaultPerPage ∧
        (q.pageClauses config).2 ≠ none := by
  cases hoffset : q.offset with
  | none =>
    rw [pageClauses_of_no_offset hoffset] at h
    exact .inl (le_of_mem_ownPageSize? h)
  | some offset =>
    rw [pageClauses_of_offset hoffset] at h ⊢
    cases hown : q.ownPageSize? config with
    | some own =>
      rw [hown] at h
      obtain rfl : own = size := Option.some.inj h
      exact .inl (le_of_mem_ownPageSize? hown)
    | none =>
      rw [hown] at h
      obtain rfl : config.defaultPerPage = size := Option.some.inj h
      exact .inr ⟨rfl, Option.some_ne_none _, rfl, Option.some_ne_none _⟩

/-- More than the greatest page size is asked for exactly if a query falls back to the usual one and
that is greater. -/
theorem exceeds_iff :
    (∃ size ∈ (q.pageClauses config).1, config.maxPerPage < size) ↔ q.Exceeds config := by
  constructor
  · rintro ⟨size, hsize, hlt⟩
    rcases size_cases hsize with hle | ⟨hown, hoffset, rfl, -⟩
    · exact absurd hlt (Nat.not_lt.mpr hle)
    · obtain ⟨hperPage, hlimit⟩ := ownPageSize?_eq_none_iff.mp hown
      exact ⟨hlt, hoffset, hperPage, hlimit⟩
  · intro h
    obtain ⟨offset, hoffset⟩ := Option.ne_none_iff_exists'.mp h.offset
    refine ⟨config.defaultPerPage, ?_, h.usual⟩
    rw [pageClauses_of_offset hoffset, ownPageSize?_eq_none_iff.mpr ⟨h.perPage, h.limit⟩]
    rfl

end Query

/-- Whether a request asks for at most the greatest page size, or for the usual one if that exceeds
the greatest, beside a page. -/
def Request.Sized (config : Config) (r : Request) : Prop :=
  ∀ text ∈ r.queryValue? "per-page", ∃ size, text = toString size ∧
    (size ≤ config.maxPerPage ∨ config.maxPerPage < config.defaultPerPage ∧
      size = config.defaultPerPage ∧ r.queryValue? "page" ≠ none)

/-- A compiled query asks for such a page size. -/
theorem Query.sized_of_describe {g : Catalog} {config : Config} {q : Query} {params : Parameters}
    {d : Descriptor} (h : q.describe g config params = .ok d) {r : Request}
    (hquery : r.query = d.clauses.pairs) : r.Sized config := by
  have hclauses := pageClauses_of_describe h
  have hsizes : d.clauses.perPage = (q.pageClauses config).1 := congrArg Prod.fst hclauses
  have hpages : d.clauses.page = (q.pageClauses config).2 := congrArg Prod.snd hclauses
  intro text htext
  rw [Clauses.queryValue?_perPage hquery, hsizes] at htext
  obtain ⟨size, hsize, rfl⟩ := Option.map_eq_some_iff.mp htext
  refine ⟨size, rfl, ?_⟩
  rcases size_cases hsize with hle | ⟨-, -, rfl, hpage⟩
  · exact .inl hle
  · rcases Nat.lt_or_ge config.maxPerPage config.defaultPerPage with hlt | hge
    · refine .inr ⟨hlt, rfl, ?_⟩
      rw [Clauses.queryValue?_page hquery, hpages]
      simpa using hpage
    · exact .inl hge

/-! ## The requests for pages -/

section

variable {σ : Type} {conn : Connection σ} {R : World σ → World σ → Prop}

/-- Reading a page of a listing respects what the requests for pages do. -/
theorem Listing.respects_fetch
    (hask : ∀ q : Query, Respects R (conn.command q >>= conn.readAll).run) (l : Listing)
    (number : Nat) : Respects R (l.fetch conn number).run := by
  refine (respects_lift _).bind fun q => ?_
  show Respects R (conn.command q >>= fun c => conn.readAll c >>= _).run
  rw [← bind_assoc]
  refine (hask q).bind fun response => ?_
  have hload : (conn.loader q).Respects R := Connection.loader_respects (fun c => hask c.query) q
  dsimp only
  split
  · exact respects_pure _
  · exact (Cursor.respects_materialize hload q _).bind fun _ => respects_pure _

end

namespace Connection

variable {σ : Type}

/-- The page of a query is asked for by such a page size. -/
theorem sends_sized (conn : Connection σ) (q : Query) :
    (conn.command q >>= conn.readAll).Sends (Request.Sized conn.config) := by
  intro w
  rw [eval_bind, eval_command]
  cases hd : q.describe conn.catalog conn.config [] with
  | error e => exact World.adds_of_sent_eq rfl
  | ok d =>
    have hsent := sends_execute conn
      (({ d with headers := conn.auth.headers w.asked } : Descriptor).request .get)
      { w with asked := w.asked + 1 }
    refine hsent.mono ?_
    rintro r ⟨headers, rfl⟩
    exact Query.sized_of_describe hd rfl

/-- Every request for a page asks for at most the greatest page size, or for the usual one if that
is greater; which of them a query asks for is told by the query. -/
theorem sized_requests (conn : Connection σ) :
    (∀ (q : Query) (asked : Nat) (params : Parameters) (d : Descriptor),
      q.build conn.catalog conn.config conn.auth asked params = .ok d →
        (d.request .get).queryValue? "per-page" = d.clauses.perPage.map toString ∧
          (d.request .get).Sized conn.config ∧
          ((∃ size ∈ d.clauses.perPage, conn.config.maxPerPage < size) ↔
            q.Exceeds conn.config)) ∧
      (∀ q : Query, (conn.all q).Sends (Request.Sized conn.config)) ∧
      (∀ (c : Cursor) (calls : List Cursor.Call) (w : World σ),
        w.Adds (Request.Sized conn.config) ((conn.callAll c calls).run w).2) ∧
      ∀ (l : Listing) (number : Nat), (l.fetch conn number).Sends (Request.Sized conn.config) := by
  have hask (start : World σ) (q : Query) : Respects
      (World.Grows (Request.Sized conn.config) start) (conn.command q >>= conn.readAll).run :=
    (sends_sized conn q).respects start
  have hfetch (start : World σ) (c : Cursor) : Respects
      (World.Grows (Request.Sized conn.config) start) (c.fetch conn).run := hask start c.query
  refine ⟨fun q asked params d h => ?_, fun q => ?_, fun c calls => ?_, fun l number => ?_⟩
  · obtain ⟨bare, hbare, rfl⟩ := map_eq_ok_iff.mp h
    have hsizes : bare.clauses.perPage = (q.pageClauses conn.config).1 :=
      congrArg Prod.fst (Query.pageClauses_of_describe hbare)
    refine ⟨Clauses.queryValue?_perPage rfl, Query.sized_of_describe hbare rfl, ?_⟩
    show (∃ size ∈ bare.clauses.perPage, _) ↔ _
    rw [hsizes, Query.exceeds_iff]
  · exact World.adds_of_respects fun start =>
      respects_allWith (hfetch start) (loader_respects (hfetch start) q) q
  · exact World.adds_of_respects fun start => respects_callAll (hfetch start) calls c
  · exact World.adds_of_respects fun start => Listing.respects_fetch (hask start) l number

/-- A configuration is accepted whose usual page size exceeds the greatest, so a query that has an
offset and no page size asks for more than the greatest. -/
theorem sized_requests_offset :
    let track : Schema := { typeName := "Track", fields := ["id"] }
    let config : Config :=
      { baseUrl := "http://localhost", defaultPerPage := 100, maxPerPage := 50 }
    let conn : Connection Store :=
      { catalog := [track], config := config, auth := .none, answer := Store.send {}
        pageBudget := 1 }
    let q : Query := (Query.of track).startAt 10
    let d : Descriptor :=
      { typeName := some "Track", uri := "tracks"
        clauses := { perPage := some 100, page := some 1 } }
    config.validate = .ok config ∧ q.Exceeds config ∧
      q.build conn.catalog config conn.auth 0 [] = .ok d ∧
      (d.request .get).queryValue? "per-page" = some "100" ∧
      (conn.all q).Sends (Request.Sized config) := by
  intro track config conn q d
  have hbuild : q.build conn.catalog conn.config conn.auth 0 [] = .ok d := by decide +kernel
  obtain ⟨hbuilt, hall, -⟩ := sized_requests conn
  obtain ⟨hsent, -, hexceeds⟩ := hbuilt q 0 [] d hbuild
  exact ⟨by decide +kernel, hexceeds.mp ⟨100, rfl, by decide⟩, hbuild, hsent, hall q⟩

end Connection

end RestQuery
