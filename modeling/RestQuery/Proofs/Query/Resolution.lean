import Mathlib.Data.List.Infix
import Mathlib.Data.List.Nodup
import Mathlib.Data.List.TakeWhile
import RestQuery.Query.Joins

/-!
# What joins resolve to

A path names one relation after another: the first is looked up in the type of the query, and each
further one in the type that those before it lead to. `Catalog.Leads` says that a path leads through
declared relations, and `Catalog.Stops` that it comes to a type that does not declare the next one;
every path does one of both, in a graph of types that may have circles.

A path that leads through asks for its relations under the names of those before them
(`PendingPath.targets`), for all of them if no name behind others is empty
(`PendingPath.targetsOf_of_named`). `Query.prepareInPlace_joinWith` puts this together for all paths
of a query: either all lead through, and the query asks for what they stand for, each target once,
and then for its explicit targets; or the first that stops is told, and the query is left as it was.
-/

namespace RestQuery

open Text

/-! ## Paths of relations -/

namespace Catalog

/-- A path of relations leads from one type to another. -/
inductive Leads (g : Catalog) : Schema → List String → Schema → Prop where
  | here (s : Schema) : Leads g s [] s
  | step {s t : Schema} {r : Relation} {name : String} {rest : List String}
      (declared : s.relation? name = .ok r) (rest_leads : Leads g (g.target r) rest t) :
      Leads g s (name :: rest) t

/-- A path of relations comes to a type that does not declare its next relation. -/
inductive Stops (g : Catalog) : Schema → List String → Schema → String → Prop where
  | here {s : Schema} {name : String} (rest : List String)
      (undeclared : ∀ r ∈ s.relations, r.name ≠ name) : Stops g s (name :: rest) s name
  | step {s t : Schema} {r : Relation} {name stop : String} {rest : List String}
      (declared : s.relation? name = .ok r) (rest_stops : Stops g (g.target r) rest t stop) :
      Stops g s (name :: rest) t stop

variable {g : Catalog} {s t : Schema} {name : String} {names : List String}

/-- A relation that no declared one has the name of is unknown. -/
theorem relation?_of_undeclared (h : ∀ r ∈ s.relations, r.name ≠ name) :
    s.relation? name = .error (.unknownRelation s.typeName name) := by
  have hnone : s.relations.find? (·.name == name) = none :=
    List.find?_eq_none.mpr fun r hr => by simpa using h r hr
  rw [Schema.relation?, hnone]

/-- A name is declared, or no relation has it. -/
theorem declared_or_undeclared (s : Schema) (name : String) :
    (∃ r, s.relation? name = .ok r) ∨ ∀ r ∈ s.relations, r.name ≠ name := by
  cases hfound : s.relations.find? (·.name == name) with
  | some r => exact .inl ⟨r, by rw [Schema.relation?, hfound]⟩
  | none => exact .inr fun r hr => by simpa using List.find?_eq_none.mp hfound r hr

/-- Every path leads through, or it stops. -/
theorem leads_or_stops (g : Catalog) (s : Schema) (names : List String) :
    (∃ t, g.Leads s names t) ∨ ∃ t name, g.Stops s names t name := by
  induction names generalizing s with
  | nil => exact .inl ⟨s, .here s⟩
  | cons name rest ih =>
    rcases declared_or_undeclared s name with ⟨r, hr⟩ | hundeclared
    · exact (ih (g.target r)).imp (fun ⟨t, h⟩ => ⟨t, .step hr h⟩)
        fun ⟨t, stop, h⟩ => ⟨t, stop, .step hr h⟩
    · exact .inr ⟨s, name, .here rest hundeclared⟩

/-- A path that stops does not lead through. -/
theorem Stops.not_leads (h : g.Stops s names t name) {t' : Schema} : ¬ g.Leads s names t' := by
  induction h with
  | here rest hundeclared =>
    rintro (_ | ⟨hdeclared, _⟩)
    rw [relation?_of_undeclared hundeclared] at hdeclared
    cases hdeclared
  | step hdeclared _ ih =>
    rintro (_ | ⟨hdeclared', hrest⟩)
    rw [hdeclared] at hdeclared'
    cases hdeclared'
    exact ih hrest

end Catalog

/-! ## The targets of a path -/

namespace PendingPath

/-- Whether a text has no blank. -/
def NoBlank (text : String) : Prop := ∀ c ∈ text.toList, isBlank c = false

instance (text : String) : Decidable (NoBlank text) :=
  List.decidableBAll (isBlank · = false) text.toList

/-- Whether the relations up to one on the way are asked for. A target is asked for by its first
word, so that an empty name behind others is not. -/
def isAsked (names : List String) : Bool :=
  names.length == 1 || names.getLast?.any (· != "")

/-- The targets that the relations on the way stand for: each under its name and those before it,
with points between them. -/
def targetsOf (names : List String) : List String :=
  (names.inits.filter isAsked).map (String.intercalate ".")

/-- The targets that a path stands for. -/
def targets (path : String) : List String := targetsOf (pieces '.' path)

theorem firstWord?_of_noBlank {text : String} (h : NoBlank text) :
    firstWord? text = if text = "" then none else some text := by
  have hdrop : text.toList.dropWhile isBlank = text.toList := by
    cases hcs : text.toList with
    | nil => rfl
    | cons c rest =>
      rw [List.dropWhile_cons_of_neg]
      rw [h c (hcs ▸ List.mem_cons_self)]
      exact Bool.false_ne_true
  have htake : text.toList.takeWhile (fun c => !isBlank c) = text.toList :=
    List.takeWhile_eq_self_iff.mpr fun c hc => by rw [h c hc]; rfl
  rw [firstWord?, hdrop, htake]
  split
  · rename_i hnil
    rw [if_pos (String.toList_eq_nil_iff.mp hnil)]
  · rename_i hne
    rw [if_neg fun heq => hne (by rw [heq]; rfl), String.ofList_toList]

/-- A name without blanks is that of its relation. -/
theorem relationName_of_noBlank {name : String} (h : NoBlank name) : relationName name = name := by
  rw [relationName, firstWord?_of_noBlank h]
  split <;> simp_all

/-- Behind another relation, one is asked for if it is so without that, and is not empty. -/
theorem isAsked_cons_cons (name next : String) (rest : List String) :
    isAsked (name :: next :: rest) =
      (String.intercalate "." (next :: rest) != "" && isAsked (next :: rest)) := by
  cases rest with
  | nil => simp [isAsked]
  | cons other rest => simp [isAsked]

/-- Behind another relation, the targets are those without it that are not empty, under its name. -/
theorem targetsOf_cons (name : String) (rest : List String) :
    targetsOf (name :: rest) =
      name :: ((targetsOf rest).filter (· != "")).map (name ++ "." ++ ·) := by
  cases rest with
  | nil => simp [targetsOf, isAsked]
  | cons next rest =>
    have hrest : targetsOf (next :: rest) = ((rest.inits.map (next :: ·)).filter isAsked).map
        (String.intercalate ".") := by
      rw [targetsOf, List.inits_cons, List.filter_cons_of_neg (by simp [isAsked])]
    rw [hrest, targetsOf, List.inits_cons, List.inits_cons,
      List.filter_cons_of_neg (by simp [isAsked]), List.map_cons,
      List.filter_cons_of_pos (by simp [isAsked]), List.map_cons, String.intercalate_singleton]
    refine congrArg (name :: ·) ?_
    simp only [List.filter_map, List.map_map, List.filter_filter, Function.comp_def,
      isAsked_cons_cons, String.intercalate_cons_cons]

/-- If no name behind others is empty, all relations on the way are asked for. -/
theorem targetsOf_of_named {name : String} {rest : List String} (h : "" ∉ rest) :
    targetsOf (name :: rest) = (rest.inits.map (name :: ·)).map (String.intercalate ".") := by
  have hasked : ∀ later ∈ rest.inits, isAsked (name :: later) = true := by
    intro later hlater
    cases hlast : later.getLast? with
    | none =>
      rw [List.getLast?_eq_none_iff.mp hlast]
      rfl
    | some last =>
      have hmem : last ∈ rest :=
        ((List.mem_inits _ _).mp hlater).subset (List.mem_of_getLast? hlast)
      have hne : last ≠ "" := fun heq => h (heq ▸ hmem)
      simp [isAsked, List.getLast?_cons, hlast, hne]
  rw [targetsOf, List.inits_cons, List.filter_cons_of_neg (by simp [isAsked]), List.filter_map]
  exact congrArg (fun inits => (inits.map (name :: ·)).map (String.intercalate "."))
    (List.filter_eq_self.mpr hasked)

/-- The targets of a path have no blanks if its names have none. -/
theorem noBlank_of_mem_targetsOf {names : List String} (h : ∀ name ∈ names, NoBlank name) :
    ∀ target ∈ targetsOf names, NoBlank target := by
  induction names with
  | nil => exact fun target htarget => (List.not_mem_nil htarget).elim
  | cons name rest ih =>
    obtain ⟨hname, hrest⟩ := List.forall_mem_cons.mp h
    rw [targetsOf_cons, List.forall_mem_cons]
    refine ⟨hname, fun target htarget c hc => ?_⟩
    obtain ⟨later, hlater, rfl⟩ := List.mem_map.mp htarget
    rw [String.toList_append, String.toList_append, List.mem_append, List.mem_append] at hc
    rcases hc with (hc | hc) | hc
    · exact hname c hc
    · obtain rfl : c = '.' := by simpa using hc
      decide
    · exact ih hrest later (List.mem_filter.mp hlater).1 c hc

/-- No two targets of a path are the same. -/
theorem nodup_targetsOf (names : List String) : (targetsOf names).Nodup := by
  induction names with
  | nil => exact .nil
  | cons name rest ih =>
    rw [targetsOf_cons, List.nodup_cons]
    refine ⟨fun hmem => ?_, List.Nodup.map (fun later later' heq => ?_) (ih.filter _)⟩
    · -- Behind the name there is a point at least.
      obtain ⟨later, -, heq⟩ := List.mem_map.mp hmem
      have hlength := congrArg String.length heq
      rw [String.length_append, String.length_append] at hlength
      have hpoint : ".".length = 1 := rfl
      omega
    · exact (String.append_right_inj _).mp heq

end PendingPath

/-- What is asked for once is kept. -/
theorem freshTargets_of_nodup {targets seen : List String} (h : targets.Nodup)
    (hseen : ∀ target ∈ targets, target ∉ seen) : freshTargets seen targets = targets := by
  induction targets generalizing seen with
  | nil => rfl
  | cons target rest ih =>
    obtain ⟨hnew, hrest⟩ := List.nodup_cons.mp h
    obtain ⟨htarget, hothers⟩ := List.forall_mem_cons.mp hseen
    rw [freshTargets, if_neg htarget, ih hrest]
    intro other hother
    rw [List.mem_append, List.mem_singleton]
    rintro (hmem | rfl)
    · exact hothers other hother hmem
    · exact hnew hother

namespace PendingPath

/-- The names of targets without blanks are those that are not empty. -/
theorem names_of_noBlank (kind : String) {targets : List String}
    (h : ∀ target ∈ targets, NoBlank target) :
    (Join.mk kind targets).names = targets.filter (· != "") := by
  rw [Join.names, ← List.filterMap_eq_filter]
  refine List.filterMap_congr fun target htarget => ?_
  rw [firstWord?_of_noBlank (h target htarget)]
  by_cases hempty : target = "" <;> simp [hempty, Option.guard]

variable {g : Catalog} {s t : Schema} {names : List String} {stop : String}

/-- What the query on the last relation of a plain path joins. -/
abbrev joinsNothing : Schema → Except Error (List Join) := fun _ => .ok []

/-- The last relation of a plain path is asked for. -/
theorem resolveSegments_singleton {name : String} (hname : NoBlank name) :
    resolveSegments g joinsNothing s [name] = (s.relation? name).map fun _ => [name] := by
  rw [resolveSegments, relationName_of_noBlank hname]
  cases s.relation? name <;> rfl

/-- A relation on the way is asked for before what the path goes on to. -/
theorem resolveSegments_cons_cons {name next : String} {rest : List String} (hname : NoBlank name) :
    resolveSegments g joinsNothing s (name :: next :: rest) = do
      let r ← s.relation? name
      let targets ← resolveSegments g joinsNothing (g.target r) (next :: rest)
      return name :: (Join.mk Query.relationKind (freshTargets [] targets)).names.map
        (name ++ "." ++ ·) := by
  rw [resolveSegments, relationName_of_noBlank hname]
  exact nofun

/-- A path that leads through asks for its relations. -/
theorem resolveSegments_of_leads (h : g.Leads s names t) (hne : names ≠ [])
    (hnames : ∀ name ∈ names, NoBlank name) :
    resolveSegments g joinsNothing s names = .ok (targetsOf names) := by
  induction h with
  | here s => exact absurd rfl hne
  | @step s t r name rest hdeclared hleads ih =>
    obtain ⟨hname, hrest⟩ := List.forall_mem_cons.mp hnames
    cases rest with
    | nil =>
      rw [resolveSegments_singleton hname, hdeclared]
      rfl
    | cons next rest =>
      have hlater := ih (List.cons_ne_nil next rest) hrest
      have hfresh : freshTargets [] (targetsOf (next :: rest)) = targetsOf (next :: rest) :=
        freshTargets_of_nodup (nodup_targetsOf _) fun _ _ => List.not_mem_nil
      rw [resolveSegments_cons_cons hname, hdeclared, targetsOf_cons,
        ← names_of_noBlank Query.relationKind (noBlank_of_mem_targetsOf hrest), ← hfresh]
      show (resolveSegments g joinsNothing (g.target r) (next :: rest) >>= fun _ => _) = _
      rw [hlater]
      rfl

/-- A path that stops fails with the relation that is not declared. -/
theorem resolveSegments_of_stops (h : g.Stops s names t stop)
    (hnames : ∀ name ∈ names, NoBlank name) :
    resolveSegments g joinsNothing s names = .error (.unknownRelation t.typeName stop) := by
  induction h with
  | @here s name rest hundeclared =>
    have hname := hnames name List.mem_cons_self
    have hunknown := Catalog.relation?_of_undeclared hundeclared
    cases rest with
    | nil =>
      rw [resolveSegments_singleton hname, hunknown]
      rfl
    | cons next rest =>
      rw [resolveSegments_cons_cons hname, hunknown]
      rfl
  | @step s t r name stop rest hdeclared hstops ih =>
    obtain ⟨hname, hrest⟩ := List.forall_mem_cons.mp hnames
    cases rest with
    | nil => cases hstops
    | cons next rest =>
      rw [resolveSegments_cons_cons hname, hdeclared]
      show (resolveSegments g joinsNothing (g.target r) (next :: rest) >>= fun _ => _) = _
      rw [ih hrest]
      rfl

end PendingPath

/-! ## Putting joins together -/

/-- Of some targets, those that were not asked for before are kept, each once. -/
theorem freshTargets_eq (seen targets : List String) :
    freshTargets seen targets = (targets.filter (· ∉ seen)).eraseDups := by
  induction targets generalizing seen with
  | nil => rfl
  | cons target rest ih =>
    by_cases hseen : target ∈ seen
    · rw [freshTargets, if_pos hseen, List.filter_cons_of_neg (by simpa using hseen), ih]
    · have hothers : rest.filter (· ∉ seen ++ [target]) =
          (rest.filter (· ∉ seen)).filter fun other => !other == target := by
        rw [List.filter_filter]
        refine List.filter_congr fun other _ => ?_
        by_cases hother : other ∈ seen <;> by_cases htarget : other = target <;>
          simp [hother, htarget]
      rw [freshTargets, if_neg hseen, List.filter_cons_of_pos (by simpa using hseen),
        List.eraseDups_cons, ih, hothers]

/-- The targets that are kept of two lists are those of the first, and then those of the second. -/
theorem freshTargets_append (seen first second : List String) :
    freshTargets seen (first ++ second) =
      freshTargets seen first ++ freshTargets (seen ++ freshTargets seen first) second := by
  induction first generalizing seen with
  | nil => rw [List.nil_append, freshTargets, List.append_nil, List.nil_append]
  | cons target rest ih =>
    by_cases hseen : target ∈ seen
    · rw [List.cons_append, freshTargets, freshTargets, if_pos hseen, if_pos hseen, ih]
    · rw [List.cons_append, freshTargets, freshTargets, if_neg hseen, if_neg hseen, ih,
        List.cons_append, List.append_assoc, List.singleton_append]

/-- Read across joins, the resolved targets are those that are kept. -/
theorem allTargets_mergeResolved (seen : List String) (joins : List Join) :
    allTargets (mergeResolved seen joins) = freshTargets seen (allTargets joins) := by
  induction joins generalizing seen with
  | nil => rfl
  | cons join rest ih =>
    have hcons : allTargets (join :: rest) = join.targets ++ allTargets rest := List.flatMap_cons
    rw [mergeResolved, hcons, freshTargets_append]
    split
    · rename_i hempty
      rw [ih, List.isEmpty_iff.mp hempty, List.append_nil, List.nil_append]
    · rw [← ih]
      exact List.flatMap_cons

/-- Read across joins, explicit targets that differ are those that nothing else asks for. -/
theorem allTargets_mergeExplicit (seen : List String) {joins : List Join}
    (h : (allTargets joins).Nodup) :
    allTargets (mergeExplicit seen joins) = (allTargets joins).filter (· ∉ seen) := by
  induction joins generalizing seen with
  | nil => rfl
  | cons join rest ih =>
    have hcons : allTargets (join :: rest) = join.targets ++ allTargets rest := List.flatMap_cons
    rw [hcons] at h
    obtain ⟨-, hrest, hdisjoint⟩ := List.nodup_append.mp h
    rw [mergeExplicit, hcons, List.filter_append]
    split
    · rename_i hempty
      rw [ih _ hrest, List.isEmpty_iff.mp hempty, List.nil_append]
    · -- The targets of one join are not among those of later ones.
      have hothers : (allTargets rest).filter (· ∉ seen ++ join.targets.filter (· ∉ seen)) =
          (allTargets rest).filter (· ∉ seen) := by
        refine List.filter_congr fun other hother => ?_
        have hnew : other ∉ join.targets := fun hmem => hdisjoint other hmem other hother rfl
        simp [hnew]
      rw [← hothers, ← ih _ hrest]
      exact List.flatMap_cons

/-! ## The paths of a query -/

namespace Catalog

/-- Whether all of some paths from a type lead through. -/
def AllLead (g : Catalog) (s : Schema) (paths : List String) : Prop :=
  ∀ path ∈ paths, ∃ t, g.Leads s (pieces '.' path) t

/-- Whether of some paths from a type the first that does not lead through stops at a type, for a
relation of a name. -/
def FirstStops (g : Catalog) (s : Schema) (paths : List String) (t : Schema) (name : String) :
    Prop :=
  ∃ before path after, paths = before ++ path :: after ∧ g.AllLead s before ∧
    g.Stops s (pieces '.' path) t name

variable {g : Catalog} {s t : Schema} {name : String} {paths : List String}

theorem FirstStops.append_right (h : g.FirstStops s paths t name) (later : List String) :
    g.FirstStops s (paths ++ later) t name := by
  obtain ⟨before, path, after, rfl, hbefore, hstops⟩ := h
  exact ⟨before, path, after ++ later, by simp, hbefore, hstops⟩

theorem FirstStops.append_left {earlier : List String} (hearlier : g.AllLead s earlier)
    (h : g.FirstStops s paths t name) : g.FirstStops s (earlier ++ paths) t name := by
  obtain ⟨before, path, after, rfl, hbefore, hstops⟩ := h
  exact ⟨earlier ++ before, path, after, by simp,
    List.forall_mem_append.mpr ⟨hearlier, hbefore⟩, hstops⟩

/-- If some path stops, not all lead through. -/
theorem FirstStops.not_allLead (h : g.FirstStops s paths t name) : ¬ g.AllLead s paths := by
  obtain ⟨before, path, after, rfl, -, hstops⟩ := h
  intro hall
  obtain ⟨t', hleads⟩ := hall path (List.mem_append_right _ List.mem_cons_self)
  exact hstops.not_leads hleads

end Catalog

namespace Query

open PendingPath Catalog

variable {g : Catalog} {q : Query} {s : Schema}

/-- Plain paths that are asked for together. -/
def plainPaths (paths : List String) : PendingJoin :=
  ⟨relationKind, paths.map fun path => ⟨path, joinsNothing⟩⟩

/-- The paths of several calls wait in their order. -/
theorem foldl_joinWith (q : Query) (calls : List (List String)) :
    calls.foldl joinWith q = { q with pending := q.pending ++ calls.map plainPaths } := by
  induction calls generalizing q with
  | nil => rw [List.foldl_nil, List.map_nil, List.append_nil]
  | cons paths rest ih =>
    rw [List.foldl_cons, ih]
    show { q with pending := (q.pending ++ [plainPaths paths]) ++ rest.map plainPaths } = _
    rw [List.append_assoc]
    rfl

/-- A plain path stands for its targets, or it fails where it stops. -/
theorem resolve_plain (hschema : q.schema = some s) {path : String}
    (hplain : ∀ name ∈ pieces '.' path, NoBlank name) :
    ((∃ t, g.Leads s (pieces '.' path) t) ∧
        PendingPath.resolve g q ⟨path, joinsNothing⟩ = .ok (targets path)) ∨
      ∃ t name, g.Stops s (pieces '.' path) t name ∧ PendingPath.resolve g q ⟨path, joinsNothing⟩ =
        .error (.unknownRelation t.typeName name) := by
  have hresolve : PendingPath.resolve g q ⟨path, joinsNothing⟩ =
      resolveSegments g joinsNothing s (pieces '.' path) := by
    rw [PendingPath.resolve, hschema]
  rw [hresolve]
  rcases leads_or_stops g s (pieces '.' path) with ⟨t, hleads⟩ | ⟨t, name, hstops⟩
  · exact .inl ⟨⟨t, hleads⟩, resolveSegments_of_leads hleads (pieces_ne_nil '.' path) hplain⟩
  · exact .inr ⟨t, name, hstops, resolveSegments_of_stops hstops hplain⟩

/-- Plain paths stand for their targets, or the first that stops fails. -/
theorem mapM_resolve_plain (hschema : q.schema = some s) {paths : List String}
    (hplain : ∀ path ∈ paths, ∀ name ∈ pieces '.' path, NoBlank name) :
    (g.AllLead s paths ∧ (plainPaths paths).paths.mapM (PendingPath.resolve g q) =
        .ok (paths.map targets)) ∨
      ∃ t name, g.FirstStops s paths t name ∧
        (plainPaths paths).paths.mapM (PendingPath.resolve g q) =
          .error (.unknownRelation t.typeName name) := by
  induction paths with
  | nil => exact .inl ⟨nofun, rfl⟩
  | cons path rest ih =>
    obtain ⟨hpath, hrest⟩ := List.forall_mem_cons.mp hplain
    have hcons : (plainPaths (path :: rest)).paths.mapM (PendingPath.resolve g q) = (do
        let first ← PendingPath.resolve g q ⟨path, joinsNothing⟩
        let others ← (plainPaths rest).paths.mapM (PendingPath.resolve g q)
        pure (first :: others)) := List.mapM_cons
    rw [hcons]
    rcases resolve_plain hschema hpath with ⟨hleads, hok⟩ | ⟨t, name, hstops, herror⟩
    · rw [hok]
      rcases ih hrest with ⟨hall, hothers⟩ | ⟨t, name, hfirst, herror⟩
      · rw [hothers]
        exact .inl ⟨List.forall_mem_cons.mpr ⟨hleads, hall⟩, rfl⟩
      · rw [herror]
        have hearlier : g.AllLead s [path] := List.forall_mem_singleton.mpr hleads
        exact .inr ⟨t, name, hfirst.append_left hearlier, rfl⟩
    · rw [herror]
      exact .inr ⟨t, name, ⟨[], path, rest, rfl, nofun, hstops⟩, rfl⟩

/-- The plain paths of several calls stand for their targets, or the first that stops fails. -/
theorem resolvedJoins_plain (hschema : q.schema = some s) {calls : List (List String)}
    (hpending : q.pending = calls.map plainPaths)
    (hplain : ∀ path ∈ calls.flatten, ∀ name ∈ pieces '.' path, NoBlank name) :
    (g.AllLead s calls.flatten ∧ ∃ joins, q.resolvedJoins g = .ok joins ∧
        allTargets joins = calls.flatten.flatMap targets) ∨
      ∃ t name, g.FirstStops s calls.flatten t name ∧
        q.resolvedJoins g = .error (.unknownRelation t.typeName name) := by
  let resolveJoin (pending : PendingJoin) : Except Error Join := do
    let targets ← pending.paths.mapM (PendingPath.resolve g q)
    return ⟨pending.kind, targets.flatten⟩
  have hresolved : q.resolvedJoins g = (calls.map plainPaths).mapM resolveJoin := by
    rw [resolvedJoins, hpending]
  rw [hresolved]
  clear hpending hresolved
  induction calls with
  | nil => exact .inl ⟨nofun, [], rfl, rfl⟩
  | cons paths rest ih =>
    rw [List.flatten_cons] at hplain ⊢
    obtain ⟨hpaths, hrest⟩ := List.forall_mem_append.mp hplain
    have hcons : ((paths :: rest).map plainPaths).mapM resolveJoin = (do
        let targets ← (plainPaths paths).paths.mapM (PendingPath.resolve g q)
        let joins ← (rest.map plainPaths).mapM resolveJoin
        pure (⟨relationKind, targets.flatten⟩ :: joins)) := by
      rw [List.map_cons, List.mapM_cons, bind_assoc]
      rfl
    rw [hcons]
    rcases mapM_resolve_plain hschema hpaths with ⟨hleads, hok⟩ | ⟨t, name, hfirst, herror⟩
    · rw [hok]
      rcases ih hrest with ⟨hall, joins, hjoins, htargets⟩ | ⟨t, name, hfirst, herror⟩
      · rw [hjoins]
        refine .inl ⟨List.forall_mem_append.mpr ⟨hleads, hall⟩, _, rfl, ?_⟩
        rw [List.flatMap_append, ← htargets]
        rfl
      · rw [herror]
        exact .inr ⟨t, name, hfirst.append_left hleads, rfl⟩
    · rw [herror]
      exact .inr ⟨t, name, hfirst.append_right _, rfl⟩

/-- The joins of a query are its resolved ones, each target once, and the explicit ones that differ
from them. -/
theorem mergedJoins_of_resolved {joins : List Join} (h : q.resolvedJoins g = .ok joins)
    (hdistinct : (allTargets q.joins).Nodup) :
    ∃ merged, q.mergedJoins g = .ok merged ∧ allTargets merged = (allTargets joins).eraseDups ++
      (allTargets q.joins).filter (· ∉ (allTargets joins).eraseDups) := by
  have hresolved : allTargets (mergeResolved [] joins) = (allTargets joins).eraseDups := by
    rw [allTargets_mergeResolved, freshTargets_eq]
    simp
  refine ⟨mergeResolved [] joins ++ mergeExplicit (allTargets (mergeResolved [] joins)) q.joins,
    by rw [mergedJoins, h]; rfl, ?_⟩
  rw [← hresolved, ← allTargets_mergeExplicit _ hdistinct]
  exact List.flatMap_append

/-- A query with plain paths is prepared with what they stand for, or the first that stops fails. -/
theorem prepare_plain (hschema : q.schema = some s) {calls : List (List String)}
    (hpending : q.pending = calls.map plainPaths) (hdistinct : (allTargets q.joins).Nodup)
    (hplain : ∀ path ∈ calls.flatten, ∀ name ∈ pieces '.' path, NoBlank name) :
    (g.AllLead s calls.flatten ∧ ∃ prepared, q.prepare g = .ok prepared ∧
        allTargets prepared.joins = (calls.flatten.flatMap targets).eraseDups ++
          (allTargets q.joins).filter (· ∉ (calls.flatten.flatMap targets).eraseDups)) ∨
      ∃ t name, g.FirstStops s calls.flatten t name ∧
        q.prepare g = .error (.unknownRelation t.typeName name) := by
  rw [prepare]
  split
  · -- Without a call nothing is resolved, and the explicit joins stay as they are.
    rename_i hempty
    obtain rfl : calls = [] := by
      rw [hpending, List.isEmpty_map] at hempty
      exact List.isEmpty_iff.mp hempty
    exact .inl ⟨nofun, q, rfl, by simp⟩
  · rcases resolvedJoins_plain hschema hpending hplain with
      ⟨hall, joins, hjoins, htargets⟩ | ⟨t, name, hfirst, herror⟩
    · obtain ⟨merged, hmerged, hmergedTargets⟩ := mergedJoins_of_resolved hjoins hdistinct
      rw [htargets] at hmergedTargets
      rw [hmerged]
      exact .inl ⟨hall, _, rfl, hmergedTargets⟩
    · rw [mergedJoins, herror]
      exact .inr ⟨t, name, hfirst, rfl⟩

/-- A query is prepared in place as it is otherwise, and left as it was where that fails. -/
theorem run_prepareInPlace (g : Catalog) (q : Query) :
    (prepareInPlace g).run.run q = match q.prepare g with
      | .ok prepared => (.ok (), prepared)
      | .error e => (.error e, q) := by
  rw [prepare]
  show ((if q.pending.isEmpty then _ else _ : ExceptT Error (StateM Query) Unit)).run.run q = _
  split
  · rfl
  · cases q.mergedJoins g <;> rfl

/-- Preparing a query with plain paths succeeds if and only if they all lead through. Its targets
are then those that the paths stand for, each once, and the explicit ones that are not among them.
Otherwise the first path that does not lead through tells the type that it stops at and the relation
it asks there, and the query stays as it was. -/
theorem prepareInPlace_joinWith (g : Catalog) {q : Query} {s : Schema} (hschema : q.schema = some s)
    (hpending : q.pending = []) (hdistinct : (allTargets q.joins).Nodup)
    (calls : List (List String))
    (hplain : ∀ path ∈ calls.flatten, ∀ name ∈ pieces '.' path, NoBlank name) :
    let asked := calls.foldl joinWith q
    let resolved := (calls.flatten.flatMap targets).eraseDups
    ((∃ after, (prepareInPlace g).run.run asked = (.ok (), after)) ↔ g.AllLead s calls.flatten) ∧
      (∀ after, (prepareInPlace g).run.run asked = (.ok (), after) →
        allTargets after.joins = resolved ++ (allTargets q.joins).filter (· ∉ resolved)) ∧
      ∀ e after, (prepareInPlace g).run.run asked = (.error e, after) → after = asked ∧
        ∃ t name, g.FirstStops s calls.flatten t name ∧ e = .unknownRelation t.typeName name := by
  intro asked resolved
  have hasked : asked = { q with pending := calls.map plainPaths } := by
    rw [← List.nil_append (calls.map plainPaths), ← hpending]
    exact foldl_joinWith q calls
  have hjoins : asked.joins = q.joins := by rw [hasked]
  have hrun := run_prepareInPlace g asked
  have hprepare := prepare_plain (g := g) (q := asked) (by rw [hasked, hschema]) (by rw [hasked])
    (by rwa [hjoins]) hplain
  rw [hjoins] at hprepare
  rcases hprepare with ⟨hall, prepared, hprepared, htargets⟩ | ⟨t, name, hfirst, herror⟩
  · rw [hprepared] at hrun
    refine ⟨⟨fun _ => hall, fun _ => ⟨prepared, hrun⟩⟩, fun after h => ?_, fun e after h => ?_⟩
    · rw [hrun] at h
      cases h
      exact htargets
    · rw [hrun] at h
      cases h
  · rw [herror] at hrun
    refine ⟨⟨?_, fun h => absurd h hfirst.not_allLead⟩, fun after h => ?_, fun e after h => ?_⟩
    · rintro ⟨after, h⟩
      rw [hrun] at h
      cases h
    · rw [hrun] at h
      cases h
    · rw [hrun] at h
      cases h
      exact ⟨rfl, t, name, hfirst, rfl⟩

/-- A post asks for its author and the author's posts, and for an editor that was joined before. -/
theorem prepareInPlace_joinWith_author :
    let post : Schema := ⟨"Post", ["id"], ["id"], none, [⟨"author", "Author", false, [], none⟩]⟩
    let author : Schema := ⟨"Author", ["id"], ["id"], none, [⟨"posts", "Post", true, [], none⟩]⟩
    let q : Query := { schema := some post, joins := [⟨"JOIN", ["editor", "author"]⟩] }
    let calls := [["author.posts"], ["author"]]
    q.schema = some post ∧ q.pending = [] ∧ (allTargets q.joins).Nodup ∧
      (∀ path ∈ calls.flatten, ∀ name ∈ pieces '.' path, NoBlank name) ∧
      ∃ after, (prepareInPlace [post, author]).run.run (calls.foldl joinWith q) = (.ok (), after) ∧
        allTargets after.joins = ["author", "author.posts", "editor"] := by
  intro post author q calls
  have hdistinct : (allTargets q.joins).Nodup := by decide
  have hplain : ∀ path ∈ calls.flatten, ∀ name ∈ pieces '.' path, NoBlank name := by decide +kernel
  obtain ⟨hsucceeds, htargets, -⟩ :=
    prepareInPlace_joinWith [post, author] rfl rfl hdistinct calls hplain
  have hleads : AllLead [post, author] post calls.flatten := by
    have hauthor : Leads [post, author] post ["author"] author := .step rfl (.here author)
    have hposts : Leads [post, author] post ["author", "posts"] post :=
      .step rfl (.step (s := author) rfl (.here post))
    exact List.forall_mem_cons.mpr ⟨⟨post, hposts⟩, List.forall_mem_singleton.mpr ⟨author, hauthor⟩⟩
  obtain ⟨after, hafter⟩ := hsucceeds.mpr hleads
  refine ⟨rfl, rfl, hdistinct, hplain, after, hafter, (htargets after hafter).trans ?_⟩
  decide +kernel

/-- A relation that is declared under no name is not asked for behind another. -/
theorem targets_without_unnamed :
    let folder : Schema := ⟨"Folder", ["id"], ["id"], none,
      [⟨"up", "Folder", false, [], none⟩, ⟨"", "Folder", false, [], none⟩]⟩
    let q := Query.of folder
    q.schema = some folder ∧ q.pending = [] ∧ (allTargets q.joins).Nodup ∧
      (∀ name ∈ pieces '.' "up.", NoBlank name) ∧ AllLead [folder] folder ["up."] ∧
      ((pieces '.' "up.").inits.filter (· ≠ [])).map (String.intercalate ".") = ["up", "up."] ∧
      ∃ after, (prepareInPlace [folder]).run.run (q.joinWith ["up."]) = (.ok (), after) ∧
        allTargets after.joins = ["up"] := by
  intro folder q
  have hplain : ∀ name ∈ pieces '.' "up.", NoBlank name := by decide +kernel
  have hleads : Leads [folder] folder ["up", ""] folder :=
    .step rfl (.step (s := folder) rfl (.here folder))
  refine ⟨rfl, rfl, by decide, hplain, List.forall_mem_singleton.mpr ⟨folder, hleads⟩,
    by decide +kernel, _, rfl, ?_⟩
  decide +kernel

end Query

end RestQuery
