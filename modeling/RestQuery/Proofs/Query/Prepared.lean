import Mathlib.Data.Finset.Option
import Mathlib.Data.Finset.Union
import RestQuery.Proofs.Query.Pairs
import RestQuery.Proofs.Query.Targets

/-!
# When a query is prepared

A query may be prepared at any time between the calls that join relations to it. Which joins it
then has, and in which order, depends on that. What it asks for does not: each call adds targets to
the set of those asked for, and preparing adds none (`Query.call_asked`, `Query.callAll_asked`).
Paths are followed from the type of the query, which no call changes, so that a path that stops is
told at some time or other.

`Query.callAll_prepared` says so of the joins of a query that is prepared at last, and of the
request that is built from it.
-/

namespace RestQuery

open Text

/-- Whether a call prepares the query. -/
def JoinCall.isPrepare : JoinCall → Bool
  | prepare => true
  | _ => false

/-! ## The names that are sent -/

/-- The names in the clause for what to expand. -/
def Clauses.expanded (c : Clauses) : Finset String :=
  ((c.expand.map (pieces ',')).getD []).toFinset

/-- A compiled query but for what to expand, and the names of that. -/
def Descriptor.upToExpand (d : Descriptor) : Descriptor × Finset String :=
  ({ d with clauses := { d.clauses with expand := none } }, d.clauses.expanded)

namespace Query

variable {g : Catalog} {q q' p : Query} {calls : List JoinCall}

/-! ## What a query asks for -/

/-- The targets of the joins of a query. -/
def joinTargets (q : Query) : Finset String := (allTargets q.joins).toFinset

/-- The targets that a query asks for: those that its paths stand for, and those of its joins. -/
def asked (g : Catalog) (q : Query) : Except Error (Finset String) :=
  (q.resolvedJoins g).map fun resolved => (allTargets resolved).toFinset ∪ q.joinTargets

/-- The targets that a call adds to those of a query. -/
def adds (g : Catalog) (q : Query) : JoinCall → Except Error (Finset String)
  | .join _ targets => .ok targets.toFinset
  | .joinWith paths =>
    (paths.mapM fun path => (PendingPath.mk path fun _ => .ok []).resolve g q).map
      (·.flatten.toFinset)
  | .joinNested path nested => ((PendingPath.mk path nested).resolve g q).map (·.toFinset)
  | .prepare => .ok ∅

/-- A query asks for as much once it is prepared. -/
theorem prepare_asked (g : Catalog) (q : Query) : (q.prepare g).map joinTargets = q.asked g := by
  by_cases hpending : q.pending = []
  · have hnone : q.resolvedJoins g = .ok [] := by rw [resolvedJoins, hpending]; rfl
    rw [prepare_eq_self g hpending, asked, hnone]
    exact congrArg Except.ok (Finset.empty_union _).symm
  rw [prepare, if_neg (by simpa using hpending), mergedJoins, asked]
  cases q.resolvedJoins g with
  | error e => rfl
  | ok resolved =>
    refine congrArg Except.ok (Finset.ext fun target => ?_)
    simp only [joinTargets, allTargets, List.flatMap_append, List.toFinset_append,
      Finset.mem_union, List.mem_toFinset]
    rw [← allTargets, ← allTargets, ← allTargets, ← allTargets, mem_mergeExplicit,
      mem_mergeResolved]
    by_cases hresolved : target ∈ allTargets resolved <;> simp [hresolved]

/-- A prepared query asks for its joins only. -/
theorem asked_of_pending (h : q.pending = []) : q.asked g = .ok q.joinTargets := by
  rw [← prepare_asked, prepare_eq_self g h]
  rfl

/-- Paths that wait add what they stand for to what is asked for. -/
theorem asked_waiting (g : Catalog) (q : Query) (waiting : PendingJoin) :
    ({ q with pending := q.pending ++ [waiting] } : Query).asked g =
      (q.asked g).bind fun held =>
        (waiting.paths.mapM (PendingPath.resolve g q)).map (held ∪ ·.flatten.toFinset) := by
  have hresolved : ({ q with pending := q.pending ++ [waiting] } : Query).resolvedJoins g =
      (q.resolvedJoins g).bind fun resolved =>
        (waiting.paths.mapM (PendingPath.resolve g q)).map fun targets =>
          resolved ++ [⟨waiting.kind, targets.flatten⟩] := by
    unfold resolvedJoins
    rw [List.mapM_append]
    refine bind_congr fun resolved => ?_
    rw [List.mapM_cons, List.mapM_nil]
    show ((waiting.paths.mapM (PendingPath.resolve g q) >>= _) >>= _) >>= _ = _
    cases waiting.paths.mapM (PendingPath.resolve g q) <;> rfl
  rw [asked, asked, hresolved]
  cases q.resolvedJoins g with
  | error e => rfl
  | ok resolved =>
    cases waiting.paths.mapM (PendingPath.resolve g q) with
    | error e => rfl
    | ok targets =>
      refine congrArg Except.ok (Finset.ext fun target => ?_)
      simp only [joinTargets, allTargets, List.flatMap_append, List.flatMap_cons, List.flatMap_nil,
        List.append_nil, List.toFinset_append, Finset.mem_union, or_assoc]
      exact or_congr_right or_comm

/-- A call adds its targets to those asked for. The paths that waited before are followed first. -/
theorem call_asked (g : Catalog) (q : Query) (c : JoinCall) :
    (q.call g c).bind (asked g) =
      (q.asked g).bind fun held => (q.adds g c).map (held ∪ ·) := by
  cases c with
  | join kind targets =>
    show (q.join kind targets).asked g = (q.asked g).bind fun held => .ok (held ∪ targets.toFinset)
    have hresolved : (q.join kind targets).resolvedJoins g = q.resolvedJoins g := rfl
    rw [asked, asked, hresolved]
    cases q.resolvedJoins g with
    | error e => rfl
    | ok resolved =>
      simp [Except.map, Except.bind, joinTargets, join, allTargets, Finset.union_assoc]
  | joinWith paths =>
    refine (asked_waiting g q _).trans (congrArg (q.asked g).bind (funext fun held => ?_))
    rw [List.mapM_map, adds]
    show Except.map _ (paths.mapM fun path => (PendingPath.mk path fun _ => .ok []).resolve g q) = _
    cases paths.mapM fun path => (PendingPath.mk path fun _ => .ok []).resolve g q <;> rfl
  | joinNested path nested =>
    refine (asked_waiting g q _).trans (congrArg (q.asked g).bind (funext fun held => ?_))
    rw [List.mapM_cons, List.mapM_nil, adds]
    cases (PendingPath.mk path nested).resolve g q with
    | error e => rfl
    | ok targets => simp [Except.map, bind, Except.bind, pure, Except.pure]
  | prepare =>
    rw [← prepare_asked]
    show (q.prepare g).bind (asked g) = _
    cases hp : q.prepare g with
    | error e => rfl
    | ok p =>
      refine (asked_of_pending (pending_of_prepare hp)).trans ?_
      exact congrArg Except.ok (Finset.union_empty _).symm

/-! ## Calls one after another -/

/-- What is asked for after some calls, with what each one adds. -/
def addsAll (g : Catalog) (q : Query) (calls : List JoinCall) (held : Finset String) :
    Except Error (Finset String) :=
  calls.foldlM (fun held c => (q.adds g c).map (held ∪ ·)) held

/-- To prepare a query adds nothing. -/
theorem addsAll_filter (g : Catalog) (q : Query) (calls : List JoinCall) (held : Finset String) :
    q.addsAll g (calls.filter (!·.isPrepare)) held = q.addsAll g calls held := by
  induction calls generalizing held with
  | nil => rfl
  | cons c rest ih =>
    by_cases hc : c.isPrepare
    · have hnothing : (q.adds g c).map (held ∪ ·) = .ok held := by
        cases c with
        | prepare => exact congrArg Except.ok (Finset.union_empty held)
        | _ => cases hc
      rw [List.filter_cons_of_neg (by simpa using hc), ih, addsAll, addsAll, List.foldlM_cons,
        hnothing]
      rfl
    · rw [List.filter_cons_of_pos (by simpa using hc), addsAll, addsAll, List.foldlM_cons,
        List.foldlM_cons]
      exact bind_congr ih

/-- A call changes nothing of a query but its joins and the paths that wait. -/
theorem rest_of_call {c : JoinCall} (h : q.call g c = .ok q') :
    ∃ joins pending, q' = { q with joins := joins, pending := pending } := by
  cases c with
  | prepare => exact eq_of_prepare h
  | _ =>
    obtain rfl := Except.ok.inj h
    exact ⟨_, _, rfl⟩

theorem rest_of_callAll (h : q.callAll g calls = .ok q') :
    ∃ joins pending, q' = { q with joins := joins, pending := pending } := by
  induction calls generalizing q with
  | nil =>
    obtain rfl := Except.ok.inj h
    exact ⟨_, _, rfl⟩
  | cons c rest ih =>
    rw [callAll, List.foldlM_cons] at h
    obtain ⟨next, hnext, hrest⟩ := bind_eq_ok_iff.mp h
    obtain ⟨joins, pending, rfl⟩ := ih hrest
    obtain ⟨_, _, rfl⟩ := rest_of_call hnext
    exact ⟨joins, pending, rfl⟩

/-- The paths of calls are followed from the type of the query, whatever was called before. -/
theorem adds_of_call {c : JoinCall} (h : q.call g c = .ok q') : q'.adds g = q.adds g := by
  obtain ⟨joins, pending, rfl⟩ := rest_of_call h
  funext c
  cases c <;> rfl

/-- After some calls a query asks for what it asked for before, and for what each call adds. -/
theorem callAll_asked (g : Catalog) (q : Query) (calls : List JoinCall) :
    (q.callAll g calls).bind (asked g) = (q.asked g).bind (q.addsAll g calls) := by
  induction calls generalizing q with
  | nil =>
    show q.asked g = (q.asked g).bind .ok
    cases q.asked g <;> rfl
  | cons c rest ih =>
    have hstep := call_asked g q c
    have hsplit : (q.asked g).bind (q.addsAll g (c :: rest)) =
        ((q.asked g).bind fun held => (q.adds g c).map (held ∪ ·)).bind (q.addsAll g rest) := by
      cases q.asked g <;> rfl
    rw [callAll, List.foldlM_cons, hsplit, ← hstep]
    show ((q.call g c).bind fun next => next.callAll g rest).bind (asked g) = _
    cases hnext : q.call g c with
    | error e => rfl
    | ok next =>
      have hadds : next.addsAll g rest = q.addsAll g rest := by
        funext held
        rw [addsAll, addsAll, adds_of_call hnext]
      exact (ih next).trans (by rw [hadds]; rfl)

/-! ## What is sent -/

/-- The names that are sent for some targets. -/
def sentNames (targets : Finset String) : Finset String :=
  ((targets.biUnion fun target => (firstWord? target).toFinset).filter (· ≠ "")).biUnion
    fun name => (pieces ',' name).toFinset

/-- What a query with a compiled filter is built to, but for what to expand. -/
def builtPlain (config : Config) (a : Auth) (before : Nat) (q : Query) (filter : Filter) :
    Descriptor where
  typeName := q.schema.map Schema.typeName
  uri := Text.trim q.resourceName
  headers := a.headers before
  clauses :=
    { fields := commaList q.select
      filter := if filter.isEmpty then none else some filter
      sort := commaList (q.order.map sortKey)
      perPage := (q.pageClauses config).1
      page := (q.pageClauses config).2 }
  action := q.action

/-- The names in the request for some joins are told by the targets of these. -/
theorem expanded_of_joins {c : Clauses} (h : c.expand = commaList (q.joins.flatMap Join.names)) :
    c.expanded = sentNames q.joinTargets := by
  have hnames : q.joins.flatMap Join.names = (allTargets q.joins).filterMap firstWord? := by
    rw [allTargets, List.filterMap_flatMap]
    rfl
  ext name
  simp only [Clauses.expanded, h, sentNames, joinTargets, List.mem_toFinset, mem_pieces_commaList,
    hnames, List.mem_filterMap, Finset.mem_biUnion, Finset.mem_filter, Option.mem_toFinset,
    Option.mem_def, and_assoc]

/-- What is built from a query is told by what it asks for, and by what joining leaves alone. -/
theorem build_upToExpand (g : Catalog) (config : Config) (a : Auth) (before : Nat)
    (params : Parameters) (q : Query) :
    (q.build g config a before params).map Descriptor.upToExpand =
      (q.asked g).bind fun targets =>
        (q.compiledFilter params).map fun filter =>
          (q.builtPlain config a before filter, sentNames targets) := by
  rw [← prepare_asked]
  unfold build describe
  cases hp : q.prepare g with
  | error e => rfl
  | ok p =>
    obtain ⟨joins, pending, rfl⟩ := eq_of_prepare hp
    have hfilter : compiledFilter params { q with joins := joins, pending := pending } =
        q.compiledFilter params := rfl
    simp only [bind, Except.bind, clauses, hfilter]
    cases q.compiledFilter params with
    | error e => rfl
    | ok filter =>
      exact congrArg Except.ok (Prod.ext rfl (expanded_of_joins rfl))

/-- What is built after some calls is told by what they add, and not by when they prepare. -/
theorem callAll_build (g : Catalog) (config : Config) (a : Auth) (before : Nat)
    (params : Parameters) (q : Query) (calls : List JoinCall) :
    ((q.callAll g calls).bind (build g config a before params)).map Descriptor.upToExpand =
      ((q.asked g).bind (q.addsAll g calls)).bind fun targets =>
        (q.compiledFilter params).map fun filter =>
          (q.builtPlain config a before filter, sentNames targets) := by
  rw [← callAll_asked]
  cases hrun : q.callAll g calls with
  | error e => rfl
  | ok q' =>
    obtain ⟨joins, pending, rfl⟩ := rest_of_callAll hrun
    exact build_upToExpand g config a before params _

/-- After any calls, preparing a query leaves it with the same set of targets as if it had not been
prepared in between, and what is built from it expands the same names, and is else the same; if a
path stops, then both fail with the same error. What is built from a query is what is built from it
once it is prepared. -/
theorem callAll_prepared (g : Catalog) (q : Query) (calls : List JoinCall) :
    ((q.callAll g calls).bind (prepare g)).map joinTargets =
        ((q.callAll g (calls.filter (!·.isPrepare))).bind (prepare g)).map joinTargets ∧
      ∀ (config : Config) (a : Auth) (before : Nat) (params : Parameters),
        ((q.callAll g calls).bind (build g config a before params)).map Descriptor.upToExpand =
            ((q.callAll g (calls.filter (!·.isPrepare))).bind
              (build g config a before params)).map Descriptor.upToExpand ∧
          ∀ q' : Query, (q'.prepare g).bind (build g config a before params) =
            q'.build g config a before params := by
  have hfilter : q.addsAll g (calls.filter (!·.isPrepare)) = q.addsAll g calls :=
    funext (addsAll_filter g q calls)
  have hprepared (calls : List JoinCall) :
      ((q.callAll g calls).bind (prepare g)).map joinTargets =
        (q.asked g).bind (q.addsAll g calls) := by
    rw [← callAll_asked]
    cases q.callAll g calls with
    | error e => rfl
    | ok q' => exact prepare_asked g q'
  refine ⟨by rw [hprepared, hprepared, hfilter], fun config a before params => ⟨?_, fun q' => ?_⟩⟩
  · rw [callAll_build, callAll_build, hfilter]
  · cases hp : q'.prepare g with
    | error e =>
      unfold build describe
      rw [hp]
      rfl
    | ok p => exact congrArg (Except.map _) (describe_of_prepare hp config params)

/-- A post that is prepared before its editor is joined expands it before its author, and else after
that. -/
example :
    let post : Schema := ⟨"Post", ["id"], ["id"], none,
      [⟨"author", "User", false, [], none⟩, ⟨"editor", "User", false, [], none⟩]⟩
    let g : Catalog := [post]
    let targets (calls : List JoinCall) : Except Error (List String) :=
      (((of post).callAll g calls).bind (prepare g)).map (allTargets ·.joins)
    targets [.joinWith ["author"], .join "JOIN" ["tags"], .prepare, .joinWith ["editor"]] =
        .ok ["editor", "author", "tags"] ∧
      targets [.joinWith ["author"], .join "JOIN" ["tags"], .joinWith ["editor"]] =
        .ok ["author", "editor", "tags"] := by
  decide +kernel

end Query

end RestQuery
