import RestQuery.Proofs.Outcome
import RestQuery.Proofs.Query.Resolution
import RestQuery.Proofs.Query.Window

/-!
# How often a query asks for a target

A query asks for relations by explicit joins and by paths that wait to be resolved, and may be
prepared at any time in between (`JoinCall`). When it is prepared with paths that wait, their
targets come first, each once, and an explicit join keeps of its targets those that nothing before
it asks for (`Query.count_of_prepare`). So no two of its joins share a target. But a join keeps a
target as often as it names it, and without paths that wait, preparing a query leaves its joins as
they are.

`Query.callAll_targets` says after which calls no target occurs twice.
-/

namespace RestQuery

/-! ## Explicit joins -/

/-- How often the first of some joins that asks for a target asks for it. -/
def firstAsk (joins : List Join) (target : String) : Nat :=
  ((joins.find? (target ∈ ·.targets)).map (·.targets.count target)).getD 0

variable {joins rest : List Join} {join : Join} {seen : List String} {target : String}

theorem firstAsk_cons_of_mem (h : target ∈ join.targets) :
    firstAsk (join :: rest) target = join.targets.count target := by
  rw [firstAsk, List.find?_cons_of_pos (by simpa using h)]
  rfl

theorem firstAsk_cons_of_not_mem (h : target ∉ join.targets) :
    firstAsk (join :: rest) target = firstAsk rest target := by
  rw [firstAsk, List.find?_cons_of_neg (by simpa using h)]
  rfl

/-- The first join keeps the targets that nothing else asks for, and the others keep what neither
that nor the first join asks for. -/
theorem allTargets_mergeExplicit_cons (seen : List String) (join : Join) (rest : List Join) :
    allTargets (mergeExplicit seen (join :: rest)) = join.targets.filter (· ∉ seen) ++
      allTargets (mergeExplicit (seen ++ join.targets.filter (· ∉ seen)) rest) := by
  rw [mergeExplicit]
  split
  · rename_i hnone
    rw [List.isEmpty_iff.mp hnone, List.append_nil, List.nil_append]
  · exact List.flatMap_cons

/-- A target that nothing else asks for is kept as often as the first join with it names it. -/
theorem count_mergeExplicit (seen : List String) (joins : List Join) (target : String) :
    (allTargets (mergeExplicit seen joins)).count target =
      if target ∈ seen then 0 else firstAsk joins target := by
  induction joins generalizing seen with
  | nil =>
    show 0 = if target ∈ seen then 0 else 0
    rw [ite_self]
  | cons join rest ih =>
    rw [allTargets_mergeExplicit_cons, List.count_append, ih]
    by_cases hseen : target ∈ seen
    · rw [if_pos hseen, if_pos (List.mem_append_left _ hseen), Nat.add_zero, List.count_eq_zero]
      simp [hseen]
    rw [if_neg hseen, List.count_filter (by simpa using hseen)]
    by_cases hmem : target ∈ join.targets
    · have hkept : target ∈ seen ++ join.targets.filter (· ∉ seen) := by simp [hmem, hseen]
      rw [if_pos hkept, firstAsk_cons_of_mem hmem, Nat.add_zero]
    · have hnew : target ∉ seen ++ join.targets.filter (· ∉ seen) := by simp [hmem, hseen]
      rw [if_neg hnew, firstAsk_cons_of_not_mem hmem, List.count_eq_zero.mpr hmem, Nat.zero_add]

/-- The targets that are kept are those that nothing else asks for. -/
theorem mem_mergeExplicit :
    target ∈ allTargets (mergeExplicit seen joins) ↔ target ∈ allTargets joins ∧ target ∉ seen := by
  induction joins generalizing seen with
  | nil => simp [mergeExplicit, allTargets]
  | cons join rest ih =>
    have htargets : allTargets (join :: rest) = join.targets ++ allTargets rest :=
      List.flatMap_cons
    rw [allTargets_mergeExplicit_cons, htargets, List.mem_append, List.mem_append, ih]
    by_cases hseen : target ∈ seen <;> by_cases hmem : target ∈ join.targets <;>
      simp [hseen, hmem]

/-- No join names a target twice. -/
def NamesOnce (joins : List Join) : Prop := ∀ join ∈ joins, join.targets.Nodup

/-- No two joins share a target. -/
def JoinsApart (joins : List Join) : Prop :=
  joins.Pairwise fun first later => first.targets.Disjoint later.targets

/-- Joins that name no target twice ask at most once for each. -/
theorem NamesOnce.firstAsk_le_one (h : NamesOnce joins) (target : String) :
    firstAsk joins target ≤ 1 := by
  unfold firstAsk
  cases hfound : joins.find? (target ∈ ·.targets) with
  | none => exact Nat.zero_le 1
  | some join =>
    exact List.nodup_iff_count_le_one.mp (h join (List.mem_of_find?_eq_some hfound)) target

/-- What is kept of joins that name no target twice does not do so either. -/
theorem NamesOnce.mergeExplicit (h : NamesOnce joins) (seen : List String) :
    NamesOnce (mergeExplicit seen joins) := by
  induction joins generalizing seen with
  | nil => exact nofun
  | cons join rest ih =>
    obtain ⟨hjoin, hrest⟩ := List.forall_mem_cons.mp h
    rw [RestQuery.mergeExplicit]
    split
    · exact ih hrest seen
    · exact List.forall_mem_cons.mpr ⟨hjoin.filter _, ih hrest _⟩

/-- What is kept of explicit joins shares no target with one another. -/
theorem apart_mergeExplicit (seen : List String) (joins : List Join) :
    JoinsApart (mergeExplicit seen joins) := by
  induction joins generalizing seen with
  | nil => exact .nil
  | cons join rest ih =>
    rw [mergeExplicit]
    split
    · exact ih seen
    refine List.pairwise_cons.mpr ⟨fun later hlater target hkept hmem => ?_, ih _⟩
    -- The later joins keep none of the targets that the first one keeps.
    have hnew := (mem_mergeExplicit.mp (List.mem_flatMap_of_mem hlater hmem)).2
    exact hnew (List.mem_append_right _ hkept)

/-! ## Resolved joins -/

/-- A target is kept if it was not asked for before. -/
theorem mem_freshTargets {targets : List String} :
    target ∈ freshTargets seen targets ↔ target ∈ targets ∧ target ∉ seen := by
  rw [freshTargets_eq, List.mem_eraseDups, List.mem_filter, decide_eq_true_iff]

/-- What is kept is kept once. -/
theorem nodup_freshTargets (seen targets : List String) : (freshTargets seen targets).Nodup := by
  induction targets generalizing seen with
  | nil => exact .nil
  | cons target rest ih =>
    rw [freshTargets]
    split
    · exact ih seen
    · refine List.nodup_cons.mpr ⟨fun hmem => ?_, ih _⟩
      exact (mem_freshTargets.mp hmem).2 (List.mem_append_right _ (List.mem_singleton_self target))

/-- The resolved joins ask for all targets. -/
theorem mem_mergeResolved :
    target ∈ allTargets (mergeResolved [] joins) ↔ target ∈ allTargets joins := by
  rw [allTargets_mergeResolved, mem_freshTargets, and_iff_left List.not_mem_nil]

/-- The resolved joins share no target, and name none twice. -/
theorem apart_mergeResolved (seen : List String) (joins : List Join) :
    JoinsApart (mergeResolved seen joins) ∧ NamesOnce (mergeResolved seen joins) := by
  have hnodup : (allTargets (mergeResolved seen joins)).Nodup := by
    rw [allTargets_mergeResolved]
    exact nodup_freshTargets seen _
  exact (List.nodup_flatMap.mp hnodup).symm

namespace Query

variable {g : Catalog} {q q₀ p : Query}

/-- Whether the paths of a query that wait to be resolved stand for a target. -/
def ResolvesTo (g : Catalog) (q : Query) (target : String) : Prop :=
  ∃ joins, q.resolvedJoins g = .ok joins ∧ target ∈ allTargets joins

/-- Preparing a query with paths that wait puts the resolved joins before the explicit ones. -/
theorem joins_of_prepare (h : q.prepare g = .ok p) (hpending : q.pending ≠ []) :
    ∃ resolved, q.resolvedJoins g = .ok resolved ∧ p.joins = mergeResolved [] resolved ++
      mergeExplicit (allTargets (mergeResolved [] resolved)) q.joins := by
  rw [prepare, if_neg (by simpa using hpending)] at h
  obtain ⟨joins, hmerged, rfl⟩ := map_eq_ok_iff.mp h
  obtain ⟨resolved, hresolved, hjoins⟩ := bind_eq_ok_iff.mp hmerged
  exact ⟨resolved, hresolved, (Except.ok.inj hjoins).symm⟩

/-- A resolved target is asked for once, and another one as often as the first explicit join that
names it does so. -/
theorem count_of_prepare (h : q.prepare g = .ok p) (hpending : q.pending ≠ []) (target : String) :
    (q.ResolvesTo g target → (allTargets p.joins).count target = 1) ∧
      (¬ q.ResolvesTo g target → (allTargets p.joins).count target = firstAsk q.joins target) := by
  obtain ⟨resolved, hresolved, hjoins⟩ := joins_of_prepare h hpending
  have hmem : q.ResolvesTo g target ↔ target ∈ allTargets (mergeResolved [] resolved) := by
    rw [mem_mergeResolved]
    refine ⟨fun ⟨joins, hjoins, hmem⟩ => ?_, fun hmem => ⟨resolved, hresolved, hmem⟩⟩
    rwa [Except.ok.inj (hresolved.symm.trans hjoins)]
  have hcount : (allTargets p.joins).count target =
      (allTargets (mergeResolved [] resolved)).count target +
        if target ∈ allTargets (mergeResolved [] resolved) then 0 else firstAsk q.joins target := by
    rw [← count_mergeExplicit, ← List.count_append, hjoins]
    exact congrArg (List.count target) List.flatMap_append
  rw [hcount, hmem]
  constructor
  · intro hin
    have honce : (allTargets (mergeResolved [] resolved)).Nodup := by
      rw [allTargets_mergeResolved]
      exact nodup_freshTargets [] _
    rw [if_pos hin, List.count_eq_one_of_mem honce hin]
  · intro hout
    rw [if_neg hout, List.count_eq_zero.mpr hout, Nat.zero_add]

/-- No two joins of a query that is prepared with paths that wait share a target. -/
theorem apart_of_prepare (h : q.prepare g = .ok p) (hpending : q.pending ≠ []) :
    JoinsApart p.joins := by
  obtain ⟨resolved, -, hjoins⟩ := joins_of_prepare h hpending
  rw [hjoins]
  refine List.pairwise_append.mpr
    ⟨(apart_mergeResolved [] resolved).1, apart_mergeExplicit _ q.joins, ?_⟩
  intro first hfirst later hlater target hmem hmem'
  have hnew := (mem_mergeExplicit.mp (List.mem_flatMap_of_mem hlater hmem')).2
  exact hnew (List.mem_flatMap_of_mem hfirst hmem)

/-- Preparing a query does not make a join name a target twice. -/
theorem namesOnce_of_prepare (h : q.prepare g = .ok p) (hq : NamesOnce q.joins) :
    NamesOnce p.joins := by
  by_cases hpending : q.pending = []
  · rw [prepare_eq_self g hpending] at h
    rwa [← Except.ok.inj h]
  · obtain ⟨resolved, -, hjoins⟩ := joins_of_prepare h hpending
    rw [hjoins]
    exact List.forall_mem_append.mpr ⟨(apart_mergeResolved [] resolved).2, hq.mergeExplicit _⟩

end Query

/-! ## Calls one after another -/

/-- A call that changes what a query joins. -/
inductive JoinCall where
  | join (kind : String) (targets : List String)
  | joinWith (paths : List String)
  | joinNested (path : String) (nested : Schema → Except Error (List Join))
  | prepare

namespace Query

variable {g : Catalog} {q q₀ q' p : Query}

/-- The query after a call. Only `prepare` can fail. -/
def call (g : Catalog) (q : Query) : JoinCall → Except Error Query
  | .join kind targets => .ok (q.join kind targets)
  | .joinWith paths => .ok (q.joinWith paths)
  | .joinNested path nested => .ok (q.joinNested path nested)
  | .prepare => q.prepare g

/-- The query after some calls, or the error of the first that fails. -/
def callAll (g : Catalog) (q : Query) (calls : List JoinCall) : Except Error Query :=
  calls.foldlM (call g) q

/-- A call does not make a join name a target twice, unless it names one twice itself. -/
theorem namesOnce_of_call {c : JoinCall} (h : q.call g c = .ok q')
    (hc : ∀ kind targets, c = .join kind targets → targets.Nodup) (hq : NamesOnce q.joins) :
    NamesOnce q'.joins := by
  cases c with
  | join kind targets =>
    obtain rfl := Except.ok.inj h
    exact List.forall_mem_append.mpr ⟨hq, List.forall_mem_singleton.mpr (hc kind targets rfl)⟩
  | joinWith paths =>
    obtain rfl := Except.ok.inj h
    exact hq
  | joinNested path nested =>
    obtain rfl := Except.ok.inj h
    exact hq
  | prepare => exact namesOnce_of_prepare h hq

theorem namesOnce_of_callAll {calls : List JoinCall} (h : q.callAll g calls = .ok q')
    (hcalls : ∀ kind targets, .join kind targets ∈ calls → targets.Nodup)
    (hq : NamesOnce q.joins) : NamesOnce q'.joins := by
  induction calls generalizing q with
  | nil =>
    obtain rfl := Except.ok.inj h
    exact hq
  | cons c rest ih =>
    rw [callAll, List.foldlM_cons] at h
    obtain ⟨next, hnext, hrest⟩ := bind_eq_ok_iff.mp h
    refine ih hrest (fun kind targets hmem => hcalls kind targets (List.mem_cons_of_mem _ hmem)) ?_
    refine namesOnce_of_call hnext (fun kind targets heq => hcalls kind targets ?_) hq
    exact heq ▸ List.mem_cons_self

/-- After any calls, a query that is prepared names no target twice exactly if this holds of its
joins already, where no paths wait to be resolved; and else, if of the targets that no path stands
for none is named twice by the first explicit join that names it. In the latter case no two joins
share a target, and it is told how often each one is named. In particular no target is named twice
if no call does so. -/
theorem callAll_targets {calls : List JoinCall} (hrun : q₀.callAll g calls = .ok q)
    (hp : q.prepare g = .ok p) :
    ((allTargets p.joins).Nodup ↔
        (q.pending = [] → (allTargets q.joins).Nodup) ∧
          (q.pending ≠ [] → ∀ target, ¬ q.ResolvesTo g target → firstAsk q.joins target ≤ 1)) ∧
      (q.pending = [] → p = q) ∧
      (q.pending ≠ [] → JoinsApart p.joins ∧ ∀ target,
        (q.ResolvesTo g target → (allTargets p.joins).count target = 1) ∧
          (¬ q.ResolvesTo g target →
            (allTargets p.joins).count target = firstAsk q.joins target)) ∧
      (NamesOnce q₀.joins → (∀ kind targets, .join kind targets ∈ calls → targets.Nodup) →
        NamesOnce p.joins ∧ (q.pending ≠ [] → (allTargets p.joins).Nodup)) := by
  have hsame : q.pending = [] → p = q := fun hpending =>
    (Except.ok.inj ((prepare_eq_self g hpending).symm.trans hp)).symm
  have hcount := count_of_prepare hp
  have hnodup : (allTargets p.joins).Nodup ↔ (q.pending = [] → (allTargets q.joins).Nodup) ∧
      (q.pending ≠ [] → ∀ target, ¬ q.ResolvesTo g target → firstAsk q.joins target ≤ 1) := by
    by_cases hpending : q.pending = []
    · rw [hsame hpending]
      exact ⟨fun h => ⟨fun _ => h, fun hne => absurd hpending hne⟩, fun h => h.1 hpending⟩
    rw [List.nodup_iff_count_le_one]
    constructor
    · refine fun h => ⟨fun hnone => absurd hnone hpending, fun _ target hother => ?_⟩
      rw [← (hcount hpending target).2 hother]
      exact h target
    · intro h target
      by_cases hresolved : q.ResolvesTo g target
      · exact ((hcount hpending target).1 hresolved).le
      · rw [(hcount hpending target).2 hresolved]
        exact h.2 hpending target hresolved
  refine ⟨hnodup, hsame, fun hpending => ⟨apart_of_prepare hp hpending, hcount hpending⟩,
    fun hstart hcalls => ?_⟩
  have honce := namesOnce_of_callAll hrun hcalls hstart
  refine ⟨namesOnce_of_prepare hp honce, fun hpending => hnodup.mpr ?_⟩
  exact ⟨fun hnone => absurd hnone hpending, fun _ target _ => honce.firstAsk_le_one target⟩

/-- A post joins its tags, which one call names twice, and then its author; or its tags twice by two
calls, and is prepared with no path that waits. Both times the tags are asked for twice. -/
theorem callAll_targets_tags :
    let post : Schema := ⟨"Post", ["id"], ["id"], none, [⟨"author", "Author", false, [], none⟩]⟩
    let author : Schema := ⟨"Author", ["id"], ["id"], none, []⟩
    let g : Catalog := [post, author]
    (∃ q p, (of post).callAll g [.join "JOIN" ["tags", "tags"], .joinWith ["author"]] = .ok q ∧
      q.prepare g = .ok p ∧ allTargets p.joins = ["author", "tags", "tags"] ∧
      JoinsApart p.joins ∧ (q.ResolvesTo g "author" → (allTargets p.joins).count "author" = 1) ∧
      ¬ ∀ target, ¬ q.ResolvesTo g target → firstAsk q.joins target ≤ 1) ∧
    ∃ q p, (of post).callAll g [.join "JOIN" ["tags"], .prepare, .join "JOIN" ["tags"]] = .ok q ∧
      q.prepare g = .ok p ∧ p = q ∧ ¬ (allTargets q.joins).Nodup := by
  intro post author g
  constructor
  · obtain ⟨q, hq⟩ : ∃ q,
        (of post).callAll g [.join "JOIN" ["tags", "tags"], .joinWith ["author"]] = .ok q :=
      ⟨_, rfl⟩
    obtain ⟨p, hp, htargets⟩ : ∃ p, q.prepare g = .ok p ∧
        allTargets p.joins = ["author", "tags", "tags"] := by
      cases hq
      exact ⟨_, rfl, by decide +kernel⟩
    have hpending : q.pending ≠ [] := by
      cases hq
      exact List.cons_ne_nil _ _
    obtain ⟨hnodup, -, hwaiting, -⟩ := callAll_targets hq hp
    obtain ⟨hapart, hcount⟩ := hwaiting hpending
    refine ⟨q, p, hq, hp, htargets, hapart, (hcount "author").1, fun honce => ?_⟩
    have htwice : (allTargets p.joins).Nodup :=
      hnodup.mpr ⟨fun hnone => absurd hnone hpending, fun _ => honce⟩
    rw [htargets] at htwice
    exact absurd htwice (by decide)
  · obtain ⟨q, hq⟩ : ∃ q, (of post).callAll g
        [.join "JOIN" ["tags"], .prepare, .join "JOIN" ["tags"]] = .ok q := ⟨_, rfl⟩
    have hpending : q.pending = [] := by
      cases hq
      rfl
    have hp := prepare_eq_self g hpending
    refine ⟨q, q, hq, hp, (callAll_targets hq hp).2.1 hpending, ?_⟩
    cases hq
    decide

end Query

end RestQuery
