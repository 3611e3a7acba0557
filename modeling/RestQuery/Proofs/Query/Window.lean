import RestQuery.Connection.Command
import RestQuery.Proofs.Outcome
import RestQuery.Proofs.Text.Digits

/-!
# The window of a query

Which page a query asks for is told by its limit, its offset and its page size. `Query.withWindow`
moves a query to another page and leaves all else as it is: the compiled query differs in two
clauses at most (`describe_withWindow`), and the request is the same exactly if these are
(`request_withWindow_eq_iff`). `Query.IsPageOf` relates a query to those that were moved so.
-/

namespace RestQuery

namespace Clauses

/-- The pairs of the clauses, but for those that tell the page. -/
def fixedPairs (c : Clauses) : List (String × String) :=
  pair "fields" c.fields ++ pair "expand" c.expand ++
    Wire.filterPairs (c.filter.getD []) ++ pair "sort" c.sort

/-- The pairs that tell the page come last. -/
theorem pairs_eq_append (c : Clauses) :
    c.pairs = c.fixedPairs ++ pair "per-page" (c.perPage.map toString) ++
      pair "page" (c.page.map toString) := rfl

/-- The pairs for the page tell the page clauses. -/
theorem pagePairs_injective {perPage page perPage' page' : Option Nat}
    (h : pair "per-page" (perPage.map toString) ++ pair "page" (page.map toString) =
      pair "per-page" (perPage'.map toString) ++ pair "page" (page'.map toString)) :
    perPage = perPage' ∧ page = page' := by
  have hinj : ∀ {m n : Nat}, m.repr = n.repr ↔ m = n :=
    ⟨Text.toString_injective, congrArg Nat.repr⟩
  cases perPage <;> cases perPage' <;> cases page <;> cases page' <;> simp_all [pair]

/-- Clauses that agree but for the page send the same pairs only if they agree in the page too. -/
theorem pairs_eq_iff {c : Clauses} {perPage page : Option Nat} :
    { c with perPage := perPage, page := page }.pairs = c.pairs ↔
      perPage = c.perPage ∧ page = c.page := by
  constructor
  · intro h
    simp only [pairs, List.append_assoc, List.append_cancel_left_eq] at h
    exact pagePairs_injective h
  · rintro ⟨rfl, rfl⟩
    rfl

end Clauses

namespace Query

/-- The query for another page. -/
def withWindow (q : Query) (size offset : Nat) : Query :=
  { q with perPage := some size, offset := some offset }

variable {g : Catalog} {config : Config} {q : Query} {size offset : Nat}

/-- Preparing a query changes nothing but its joins. -/
theorem eq_of_prepare {prepared : Query} (h : q.prepare g = .ok prepared) :
    ∃ joins pending, prepared = { q with joins := joins, pending := pending } := by
  unfold prepare at h
  split at h
  · cases h
    exact ⟨q.joins, q.pending, rfl⟩
  · obtain ⟨joins, -, rfl⟩ := map_eq_ok_iff.mp h
    exact ⟨joins, [], rfl⟩

/-- Preparing a query leaves its window alone. -/
theorem window_of_prepare {prepared : Query} (h : q.prepare g = .ok prepared) :
    prepared.limit = q.limit ∧ prepared.offset = q.offset ∧ prepared.perPage = q.perPage := by
  obtain ⟨joins, pending, rfl⟩ := eq_of_prepare h
  exact ⟨rfl, rfl, rfl⟩

/-- Preparing a query leaves alone what it reads, but for its joins. -/
theorem reads_of_prepare {prepared : Query} (h : q.prepare g = .ok prepared) :
    prepared.schema = q.schema ∧ prepared.index = q.index ∧ prepared.eager = q.eager := by
  obtain ⟨joins, pending, rfl⟩ := eq_of_prepare h
  exact ⟨rfl, rfl, rfl⟩

/-- A query without pending paths is prepared. -/
theorem prepare_eq_self (g : Catalog) (h : q.pending = []) : q.prepare g = .ok q := by
  rw [prepare, h]
  rfl

/-- A prepared query has no pending paths. -/
theorem pending_of_prepare {prepared : Query} (h : q.prepare g = .ok prepared) :
    prepared.pending = [] := by
  unfold prepare at h
  split at h
  · rename_i hnone
    cases h
    exact List.isEmpty_iff.mp hnone
  · obtain ⟨joins, -, rfl⟩ := map_eq_ok_iff.mp h
    rfl

/-- A query compiles as it does once it is prepared. -/
theorem describe_of_prepare {prepared : Query} (h : q.prepare g = .ok prepared) (config : Config)
    (params : Parameters) : prepared.describe g config params = q.describe g config params := by
  rw [describe, describe, h, prepare_eq_self g (pending_of_prepare h)]

/-- The compiled query of a query without pending paths. -/
theorem describe_of_filter (g : Catalog) (config : Config) (h : q.pending = [])
    {params : Parameters} {filter : Filter} (hfilter : q.compiledFilter params = .ok filter) :
    q.describe g config params = .ok
      { typeName := q.schema.map Schema.typeName
        uri := Text.trim q.resourceName
        clauses :=
          { fields := commaList q.select
            expand := commaList (q.joins.flatMap Join.names)
            filter := if filter.isEmpty then none else some filter
            sort := commaList (q.order.map sortKey)
            perPage := (q.pageClauses config).1
            page := (q.pageClauses config).2 }
        action := q.action } := by
  rw [describe, prepare_eq_self g h]
  show Except.bind (clauses config params q) _ = _
  rw [clauses, hfilter]
  rfl

/-- The page clauses depend on the window only. -/
theorem pageClauses_congr {q₁ q₂ : Query} (hlimit : q₁.limit = q₂.limit)
    (hoffset : q₁.offset = q₂.offset) (hsize : q₁.perPage = q₂.perPage) :
    q₁.pageClauses config = q₂.pageClauses config := by
  unfold pageClauses chosenPageSize
  rw [hlimit, hoffset, hsize]

/-- A change of a query that leaves its joins alone may be made before it is prepared or after. -/
theorem prepare_of_change (change : Query → Query) (hpending : (change q).pending = q.pending)
    (hjoins : (change q).mergedJoins g = q.mergedJoins g)
    (hset : ∀ joins, ({ change q with joins := joins, pending := [] } : Query) =
      change { q with joins := joins, pending := [] }) :
    (change q).prepare g = (q.prepare g).map change := by
  unfold prepare
  rw [hpending, hjoins]
  split
  · rfl
  · cases q.mergedJoins g with
    | error e => rfl
    | ok joins => exact congrArg Except.ok (hset joins)

/-- A query for another page is prepared as the query is. -/
theorem prepare_withWindow (g : Catalog) (q : Query) (size offset : Nat) :
    (q.withWindow size offset).prepare g = (q.prepare g).map (·.withWindow size offset) :=
  prepare_of_change (·.withWindow size offset) rfl rfl fun _ => rfl

/-- The compiled query for another page has the page clauses of that page, and is else the same. -/
theorem describe_withWindow (g : Catalog) (config : Config) (q : Query) (size offset : Nat) :
    (q.withWindow size offset).describe g config [] =
      (q.describe g config []).map fun d =>
        let (perPage, page) := (q.withWindow size offset).pageClauses config
        { d with clauses := { d.clauses with perPage := perPage, page := page } } := by
  unfold describe
  rw [prepare_withWindow]
  cases hprepare : q.prepare g with
  | error e => rfl
  | ok prepared =>
    obtain ⟨hlimit, -, -⟩ := window_of_prepare hprepare
    have hpage : pageClauses config (prepared.withWindow size offset) =
        pageClauses config (q.withWindow size offset) := pageClauses_congr hlimit rfl rfl
    have hfilter : compiledFilter [] (prepared.withWindow size offset) =
        compiledFilter [] prepared := rfl
    simp only [Except.map, bind, Except.bind, pure, Except.pure, clauses, hpage, hfilter]
    cases compiledFilter [] prepared <;> rfl

/-- A compiled query has the page clauses of the query. -/
theorem pageClauses_of_describe {params : Parameters} {d : Descriptor}
    (h : q.describe g config params = .ok d) :
    (d.clauses.perPage, d.clauses.page) = q.pageClauses config := by
  obtain ⟨prepared, hprepare, h⟩ := bind_eq_ok_iff.mp h
  obtain ⟨clauses, hclauses, h⟩ := bind_eq_ok_iff.mp h
  obtain ⟨filter, -, hfilter⟩ := bind_eq_ok_iff.mp hclauses
  obtain ⟨hlimit, hoffset, hsize⟩ := window_of_prepare hprepare
  cases h
  cases hfilter
  exact pageClauses_congr hlimit hoffset hsize

/-- A compiled query has the path of the query, and asks for its fields. -/
theorem of_describe {params : Parameters} {d : Descriptor}
    (h : q.describe g config params = .ok d) :
    d.uri = Text.trim q.resourceName ∧ d.clauses.fields = commaList q.select := by
  obtain ⟨prepared, hprepare, h⟩ := bind_eq_ok_iff.mp h
  obtain ⟨clauses, hclauses, h⟩ := bind_eq_ok_iff.mp h
  obtain ⟨filter, -, hfilter⟩ := bind_eq_ok_iff.mp hclauses
  obtain ⟨joins, pending, rfl⟩ := eq_of_prepare hprepare
  cases h
  cases hfilter
  exact ⟨rfl, rfl⟩

/-- A compiled query has the filter of the query, if that says anything. -/
theorem filter_of_describe {params : Parameters} {d : Descriptor}
    (h : q.describe g config params = .ok d) :
    ∃ f, q.compiledFilter params = .ok f ∧
      d.clauses.filter = if f.isEmpty then none else some f := by
  obtain ⟨prepared, hprepare, h⟩ := bind_eq_ok_iff.mp h
  obtain ⟨clauses, hclauses, h⟩ := bind_eq_ok_iff.mp h
  obtain ⟨f, hf, hfilter⟩ := bind_eq_ok_iff.mp hclauses
  obtain ⟨joins, pending, rfl⟩ := eq_of_prepare hprepare
  cases h
  cases hfilter
  exact ⟨f, hf, rfl⟩

/-- The action of a prepared query is all that its action changes. -/
theorem describe_addAction (h : q.pending = []) (config : Config) (params : Parameters)
    (action : Action) :
    (q.addAction action).describe g config params =
      (q.describe g config params).map fun d =>
        { d with action := (q.addAction action).action } := by
  have hclauses : (q.addAction action).clauses config params = q.clauses config params := rfl
  have hpending : (q.addAction action).pending = [] := h
  rw [describe, describe, prepare_eq_self g h, prepare_eq_self g hpending]
  simp only [bind, Except.bind, hclauses]
  cases q.clauses config params <;> rfl

/-- The query for another page sends the same request exactly if it has the same page clauses. -/
theorem request_withWindow_eq_iff {d : Descriptor} (h : q.describe g config [] = .ok d)
    (method : Method) :
    ((q.withWindow size offset).describe g config []).map (·.request method) =
        .ok (d.request method) ↔
      (q.withWindow size offset).pageClauses config = q.pageClauses config := by
  rw [describe_withWindow, h, ← pageClauses_of_describe h]
  obtain ⟨perPage, page⟩ := (q.withWindow size offset).pageClauses config
  simp only [Except.map, Descriptor.request, Except.ok.injEq, Request.mk.injEq, true_and, and_true,
    Clauses.pairs_eq_iff, Prod.mk.injEq]

/-! ## The pages of a query -/

/-- Whether a query is another one, perhaps for another page. -/
def IsPageOf (q' q : Query) : Prop := q' = q ∨ ∃ size offset, q' = q.withWindow size offset

namespace IsPageOf

variable {q' : Query}

theorem withWindow (h : q'.IsPageOf q) (size offset : Nat) :
    (q'.withWindow size offset).IsPageOf q := by
  obtain rfl | ⟨size', offset', rfl⟩ := h
  · exact .inr ⟨size, offset, rfl⟩
  · exact .inr ⟨size, offset, rfl⟩

theorem trans {q'' : Query} (h' : q''.IsPageOf q') (h : q'.IsPageOf q) : q''.IsPageOf q := by
  obtain rfl | ⟨size, offset, rfl⟩ := h'
  · exact h
  · exact h.withWindow size offset

/-- A query for a page compiles as the query does, but for the page. -/
theorem describe_eq (h : q'.IsPageOf q) (g : Catalog) (config : Config) :
    ∃ perPage page, q'.describe g config [] =
      (q.describe g config []).map fun d =>
        { d with clauses := { d.clauses with perPage := perPage, page := page } } := by
  obtain rfl | ⟨size, offset, rfl⟩ := h
  · cases hd : q'.describe g config [] with
    | error e => exact ⟨none, none, rfl⟩
    | ok d => exact ⟨d.clauses.perPage, d.clauses.page, rfl⟩
  · exact ⟨_, _, describe_withWindow g config q size offset⟩

/-- A query for a page reads from the resource of the query, and asks for its fields. -/
theorem source (h : q'.IsPageOf q) : q'.resourceName = q.resourceName ∧ q'.select = q.select := by
  obtain rfl | ⟨size, offset, rfl⟩ := h
  · exact ⟨rfl, rfl⟩
  · exact ⟨rfl, rfl⟩

/-- A query for a page reads what the query reads. -/
theorem reads (h : q'.IsPageOf q) :
    q'.schema = q.schema ∧ q'.joins = q.joins ∧ q'.index = q.index ∧ q'.eager = q.eager := by
  obtain rfl | ⟨size, offset, rfl⟩ := h
  · exact ⟨rfl, rfl, rfl, rfl⟩
  · exact ⟨rfl, rfl, rfl, rfl⟩

/-- The compiled query for a page of a prepared query has the path of the query, and asks for its
fields. -/
theorem of_describe {p : Query} {d : Descriptor} (h : q'.IsPageOf p) (hp : q.prepare g = .ok p)
    (hd : q'.describe g config [] = .ok d) :
    d.uri = Text.trim q.resourceName ∧ d.clauses.fields = commaList q.select := by
  obtain ⟨hsource, hselect⟩ := h.source
  obtain ⟨joins, pending, rfl⟩ := eq_of_prepare hp
  obtain ⟨huri, hfields⟩ := Query.of_describe hd
  exact ⟨huri.trans (congrArg Text.trim hsource), hfields.trans (congrArg commaList hselect)⟩

end IsPageOf

end Query

end RestQuery
