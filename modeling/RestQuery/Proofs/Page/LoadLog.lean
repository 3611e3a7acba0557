import Mathlib.Algebra.GroupWithZero.Nat
import Mathlib.Data.List.Induction
import Mathlib.Data.List.Infix
import RestQuery.Proofs.Page.Inline

/-!
# What happens where relations are loaded

While relations are loaded, records of one path of relations after another have further relations
loaded onto them, in batches: the records that came with the records of another batch are one batch,
and so are those of each page that is read. `LoadLog` lists these batches and the requests between
them, each with its path. It is read off a run and adds nothing to it.

The number of queries at a path is told by the batches before: `LoadLog.Balanced` says that a batch
has a relation queried once at most, and that no other batches follow from it than those of the
pages read and one of the records that came along. What these records are is told by the log, too:
they were attached to those of the batch, or are the rows of an answer (`LoadLog.Grounded`). Logs
that follow one another are accounted for together (`LoadLog.Accounted.append`), the pages of a
query one after another (`LoadLog.Paged.append`), and a forest of relations tree by tree
(`LoadLog.Loads.cons`).
-/

namespace RestQuery

/-- Something that happens while relations are loaded, at the path of relations that leads there:
relations are loaded onto some records, or a request for records is sent and answered. -/
inductive LoadEvent where
  | batch (path : List String) (records : List Model)
  | request (path : List String) (request : Request) (answer : Except Error Response)

namespace LoadEvent

/-- The path of relations at which something happens. -/
def path : LoadEvent → List String
  | batch path _ => path
  | request path _ _ => path

/-- What happens below a relation, seen from the records that have it. -/
def under (name : String) : LoadEvent → LoadEvent
  | batch path records => batch (name :: path) records
  | request path r answer => request (name :: path) r answer

/-- The request, if that is what is sent. -/
def request? : LoadEvent → Option Request
  | batch _ _ => none
  | request _ r _ => some r

/-- The records of a batch at a path. -/
def batchAt? (place : List String) : LoadEvent → Option (List Model)
  | batch path records => if path = place then some records else none
  | request _ _ _ => none

/-- The request that is sent at a path. -/
def requestAt? (place : List String) : LoadEvent → Option Request
  | batch _ _ => none
  | request path r _ => if path = place then some r else none

@[simp] theorem path_under (name : String) (e : LoadEvent) :
    (e.under name).path = name :: e.path := by
  cases e <;> rfl

@[simp] theorem request?_under (name : String) (e : LoadEvent) :
    (e.under name).request? = e.request? := by
  cases e <;> rfl

@[simp] theorem batchAt?_under (name : String) (place : List String) (e : LoadEvent) :
    (e.under name).batchAt? (name :: place) = e.batchAt? place := by
  cases e <;> simp [under, batchAt?]

@[simp] theorem requestAt?_under (name : String) (place : List String) (e : LoadEvent) :
    (e.under name).requestAt? (name :: place) = e.requestAt? place := by
  cases e <;> simp [under, requestAt?]

end LoadEvent

namespace Model

/-- Whether a relation was loaded for one of some records. -/
def anyLoaded (name : String) (records : List Model) : Bool := records.any (·.isLoaded name)

/-- Whether a relation was not loaded for one of some records. -/
def anyPending (name : String) (records : List Model) : Bool := records.any (!·.isLoaded name)

/-- The records that are attached to some records through a relation. -/
def attached (name : String) (records : List Model) : List Model :=
  records.flatMap fun m => ((m.related? name).getD .nothing).records

variable {name : String} {models models' : List Model}

/-- For which of some records a relation is loaded is the same if it is for each of them. -/
theorem any_congr
    (h : List.Forall₂ (fun m m' => m'.isLoaded name = m.isLoaded name) models models') :
    anyPending name models' = anyPending name models ∧
      anyLoaded name models' = anyLoaded name models := by
  induction h with
  | nil => exact ⟨rfl, rfl⟩
  | cons hm _ ih =>
    obtain ⟨hpending, hloaded⟩ := ih
    unfold anyPending at hpending ⊢
    unfold anyLoaded at hloaded ⊢
    rw [List.any_cons, List.any_cons, List.any_cons, List.any_cons, hm, hpending, hloaded]
    exact ⟨rfl, rfl⟩

/-- What is attached to some records is the same if it is for each of them. -/
theorem attached_congr
    (h : List.Forall₂ (fun m m' => m'.related? name = m.related? name) models models') :
    attached name models' = attached name models := by
  unfold attached
  induction h with
  | nil => rfl
  | cons hm _ ih => rw [List.flatMap_cons, List.flatMap_cons, hm, ih]

end Model

/-- What happens while relations are loaded, in order. -/
abbrev LoadLog := List LoadEvent

namespace LoadLog

open Model RelationTree

/-- The batches of records at a path. -/
def batches (log : LoadLog) (path : List String) : List (List Model) :=
  log.filterMap (·.batchAt? path)

/-- The requests at a path. -/
def requests (log : LoadLog) (path : List String) : List Request :=
  log.filterMap (·.requestAt? path)

/-- The requests at a path that begin a query. They ask for no page by its number, as those for the
pages after it do. -/
def queries (log : LoadLog) (path : List String) : List Request :=
  (requests log path).filter fun r => (r.queryValue? "page").isNone

variable {log log' : LoadLog} {path : List String} {name : String} {models models' : List Model}

@[simp] theorem batches_append :
    batches (log ++ log') path = batches log path ++ batches log' path := List.filterMap_append

@[simp] theorem requests_append :
    requests (log ++ log') path = requests log path ++ requests log' path := List.filterMap_append

@[simp] theorem queries_append :
    queries (log ++ log') path = queries log path ++ queries log' path := by
  simp [queries]

@[simp] theorem batches_under (name : String) :
    batches (log.map (·.under name)) (name :: path) = batches log path := by
  rw [batches, List.filterMap_map, batches]
  exact congrArg (List.filterMap · log) (funext (LoadEvent.batchAt?_under name path))

@[simp] theorem requests_under (name : String) :
    requests (log.map (·.under name)) (name :: path) = requests log path := by
  rw [requests, List.filterMap_map, requests]
  exact congrArg (List.filterMap · log) (funext (LoadEvent.requestAt?_under name path))

@[simp] theorem queries_under (name : String) :
    queries (log.map (·.under name)) (name :: path) = queries log path := by
  rw [queries, requests_under, queries]

/-- Where nothing happens there are no batches and no requests. -/
theorem none_at (h : ∀ e ∈ log, e.path ≠ path) :
    batches log path = [] ∧ requests log path = [] := by
  have hnone : ∀ e ∈ log, e.batchAt? path = none ∧ e.requestAt? path = none := by
    intro e he
    have hne := h e he
    cases e
    · exact ⟨if_neg hne, rfl⟩
    · exact ⟨rfl, if_neg hne⟩
  exact ⟨List.filterMap_eq_nil_iff.mpr fun e he => (hnone e he).1,
    List.filterMap_eq_nil_iff.mpr fun e he => (hnone e he).2⟩

/-- Nothing happens at a relation where nothing happens under its name. -/
theorem none_at_of_head (h : ∀ e ∈ log, e.path.head? ≠ some name) :
    batches log [name] = [] ∧ requests log [name] = [] :=
  none_at fun e he hpath => h e he (congrArg List.head? hpath)

@[simp] theorem batches_request (path place : List String) (r : Request)
    (answer : Except Error Response) : batches [.request place r answer] path = [] := rfl

@[simp] theorem requests_request (path : List String) (r : Request)
    (answer : Except Error Response) : requests [.request path r answer] path = [r] := by
  simp [requests, LoadEvent.requestAt?]

/-! ## Queries and batches -/

/-- What happens at a path where records are queried for so many batches, and come along with so
many: each of the former has a query at most, and no page is read where no query is begun. The
records are in one batch for each page that is read, and for each of the latter. -/
structure Accounted (log : LoadLog) (place : List String) (pending loaded : Nat) : Prop where
  queries_le : (queries log place).length ≤ pending
  batches_le : (batches log place).length ≤ loaded + (requests log place).length
  begun : queries log place = [] → requests log place = []

namespace Accounted

variable {place : List String} {pending pending' loaded loaded' : Nat}

theorem append (h : Accounted log place pending loaded)
    (h' : Accounted log' place pending' loaded') :
    Accounted (log ++ log') place (pending + pending') (loaded + loaded') := by
  obtain ⟨hqueries, hbatches, hbegun⟩ := h
  obtain ⟨hqueries', hbatches', hbegun'⟩ := h'
  refine ⟨?_, ?_, fun hnone => ?_⟩
  · rw [queries_append, List.length_append]
    exact Nat.add_le_add hqueries hqueries'
  · rw [batches_append, requests_append, List.length_append, List.length_append]
    omega
  · rw [queries_append] at hnone
    obtain ⟨hnone, hnone'⟩ := List.append_eq_nil_iff.mp hnone
    rw [requests_append, hbegun hnone, hbegun' hnone', List.append_nil]

theorem mono (h : Accounted log place pending loaded) (hle : loaded ≤ loaded') :
    Accounted log place pending loaded' :=
  ⟨h.queries_le, Nat.le_trans h.batches_le (Nat.add_le_add_right hle _), h.begun⟩

/-- What happens below a relation is seen from the records that have it. -/
theorem under (h : Accounted log place pending loaded) (name : String) :
    Accounted (log.map (·.under name)) (name :: place) pending loaded := by
  obtain ⟨hqueries, hbatches, hbegun⟩ := h
  exact ⟨by rwa [queries_under], by rwa [batches_under, requests_under],
    by rwa [queries_under, requests_under]⟩

/-- Where nothing happens, nothing is to be accounted for. -/
theorem of_none (h : batches log place = [] ∧ requests log place = []) :
    Accounted log place pending loaded := by
  obtain ⟨hbatches, hrequests⟩ := h
  refine ⟨?_, ?_, fun _ => hrequests⟩
  · rw [queries, hrequests]
    exact Nat.zero_le _
  · rw [hbatches]
    exact Nat.zero_le _

end Accounted

/-- How often a relation is queried, and how many batches of its records there are, for the records
of a path: a batch has it queried once, if it is to be loaded for one of the records, and is
followed by one of the related records that came along, if any did. -/
def Balanced (log : LoadLog) (path : List String) (name : String) : Prop :=
  Accounted log (path ++ [name]) ((batches log path).countP (anyPending name))
    ((batches log path).countP (anyLoaded name))

namespace Balanced

theorem append (h : Balanced log path name) (h' : Balanced log' path name) :
    Balanced (log ++ log') path name := by
  rw [Balanced, batches_append, List.countP_append, List.countP_append]
  exact Accounted.append h h'

/-- What happens below a relation is balanced as it is seen from there. -/
theorem under (h : Balanced log path name) (other : String) :
    Balanced (log.map (·.under other)) (other :: path) name := by
  rw [Balanced, batches_under]
  exact Accounted.under h other

/-- Where nothing happens, nothing is out of balance. -/
theorem of_none_at (h : ∀ e ∈ log, e.path ≠ path ++ [name]) : Balanced log path name :=
  .of_none (none_at h)

end Balanced

/-- What has one property and what has another are no more than all, if nothing has both. -/
theorem countP_add_countP_le {p p' : List Model → Bool} {records : List (List Model)}
    (h : ∀ batch ∈ records, ¬ (p batch = true ∧ p' batch = true)) :
    records.countP p + records.countP p' ≤ records.length := by
  induction records with
  | nil => exact Nat.le_refl 0
  | cons batch rest ih =>
    obtain ⟨hbatch, hrest⟩ := List.forall_mem_cons.mp h
    have hcount := ih hrest
    have hone : (if p batch then 1 else 0) + (if p' batch then 1 else 0) ≤ 1 := by
      split
      · rename_i hp
        rw [if_neg fun hp' => hbatch ⟨hp, hp'⟩]
      · split
        · exact Nat.le_refl 1
        · exact Nat.zero_le 1
    rw [List.countP_cons, List.countP_cons, List.length_cons]
    omega

/-- There is one batch of the page, and no more of related records than requests were sent on the
way to them. -/
theorem length_batches_le (hbalanced : ∀ path name, Balanced log path name)
    (hpage : batches log [] = [models]) (path : List String) :
    (batches log path).length ≤ 1 + (path.inits.map fun p => (requests log p).length).sum := by
  -- A batch at a path came along with one at the path before it, or was read by a request.
  induction path using List.reverseRecOn with
  | nil => rw [hpage]; exact Nat.le_add_right 1 _
  | append_singleton path name ih =>
    have hbatches := (hbalanced path name).batches_le
    have hcount : (batches log path).countP (anyLoaded name) ≤ (batches log path).length :=
      List.countP_le_length
    have hinits : (path ++ [name]).inits = path.inits ++ [path ++ [name]] := by
      simp [List.inits_append]
    rw [hinits, List.map_append, List.sum_append, List.map_singleton, List.sum_singleton]
    omega

/-- Whether no batch has a relation loaded for some of its records only, and every query that is
begun has one page. -/
structure Unmixed (log : LoadLog) : Prop where
  whole : ∀ path name, ∀ records ∈ batches log path,
    ¬ (anyLoaded name records = true ∧ anyPending name records = true)
  single : ∀ path name,
    (requests log (path ++ [name])).length ≤ (queries log (path ++ [name])).length

/-- If nothing is mixed, there is one batch at each path, and one query. -/
theorem Unmixed.queries_le_one (h : log.Unmixed) (hpage : batches log [] = [models])
    (hbalanced : ∀ path name, Balanced log path name) (path : List String) (name : String) :
    (queries log (path ++ [name])).length ≤ 1 := by
  -- One batch is followed by one at most: it has the relation queried, by one page, or loaded.
  have hbatches : (batches log path).length ≤ 1 := by
    induction path using List.reverseRecOn with
    | nil => rw [hpage]; exact Nat.le_refl 1
    | append_singleton path name ih =>
      obtain ⟨hqueries, hbatches, -⟩ := hbalanced path name
      have hfew := countP_add_countP_le (h.whole path name)
      have hrequests := h.single path name
      omega
  exact Nat.le_trans (hbalanced path name).queries_le
    (Nat.le_trans List.countP_le_length hbatches)

end LoadLog

/-! ## Where things happen -/

/-- The type that a path of relations leads to. -/
def Catalog.follow (g : Catalog) : Schema → List String → Except Error Schema
  | s, [] => .ok s
  | s, name :: rest => do
    let r ← s.relation? name
    g.follow (g.target r) rest

/-- Whether a forest of relations has a path. -/
def RelationTree.Leads : List String → List RelationTree → Prop
  | [], _ => True
  | name :: rest, forest => ∃ nested, .node name nested ∈ forest ∧ Leads rest nested

namespace RelationTree

/-- A tree below a name was there before, or was made of the one that was, or of nothing. -/
theorem mem_place {name other : String} {change : List RelationTree → List RelationTree}
    {forest nested : List RelationTree} (h : .node other nested ∈ place name change forest) :
    .node other nested ∈ forest ∨ other = name ∧ ∃ old, nested = change old ∧
      (.node name old ∈ forest ∨ old = []) := by
  induction forest with
  | nil =>
    obtain ⟨rfl, rfl⟩ := node.inj (List.mem_singleton.mp h)
    exact .inr ⟨rfl, [], rfl, .inr rfl⟩
  | cons tree rest ih =>
    obtain ⟨root, below⟩ := tree
    unfold place at h
    split at h
    · rename_i heq
      subst heq
      rcases List.mem_cons.mp h with hfirst | hrest
      · obtain ⟨rfl, rfl⟩ := node.inj hfirst
        exact .inr ⟨rfl, below, rfl, .inl List.mem_cons_self⟩
      · exact .inl (List.mem_cons_of_mem _ hrest)
    · rcases List.mem_cons.mp h with hfirst | hrest
      · exact .inl (hfirst ▸ List.mem_cons_self)
      · obtain hbefore | ⟨rfl, old, hold, hmem⟩ := ih hrest
        · exact .inl (List.mem_cons_of_mem _ hbefore)
        · exact .inr ⟨rfl, old, hold, hmem.imp_left (List.mem_cons_of_mem _)⟩

/-- A path of a forest to which a path was added is the beginning of that path, or was there before.
-/
theorem leads_of_graft {names path : List String} {forest : List RelationTree}
    (h : Leads path (graft names forest)) : path <+: names ∨ Leads path forest := by
  induction names generalizing path forest with
  | nil => exact .inr h
  | cons name rest ih =>
    cases path with
    | nil => exact .inr trivial
    | cons first others =>
      obtain ⟨nested, hnested, hothers⟩ := h
      obtain hbefore | ⟨rfl, old, rfl, hold⟩ := mem_place hnested
      · exact .inr ⟨nested, hbefore, hothers⟩
      obtain hbegins | hleads := ih hothers
      · exact .inl (List.cons_prefix_cons.mpr ⟨rfl, hbegins⟩)
      obtain hmem | rfl := hold
      · exact .inr ⟨old, hmem, hleads⟩
      · cases others with
        | nil => exact .inl (List.cons_prefix_cons.mpr ⟨rfl, List.nil_prefix⟩)
        | cons second _ =>
          obtain ⟨_, hnone, -⟩ := hleads
          exact absurd hnone List.not_mem_nil

/-- The paths of a forest are the beginnings of those that it was made of. -/
theorem leads_of_ofPaths {paths : List String} {path : List String} (hne : path ≠ [])
    (h : Leads path (ofPaths paths)) : ∃ names ∈ paths, path <+: Text.pieces '.' names := by
  have hfold : ∀ forest, Leads path (paths.foldl
      (fun forest path => graft (Text.pieces '.' path) forest) forest) →
        Leads path forest ∨ ∃ names ∈ paths, path <+: Text.pieces '.' names := by
    clear h
    -- The forest grows path by path, so the induction is for any that was there before.
    induction paths with
    | nil => exact fun _ h => .inl h
    | cons first rest ih =>
      intro forest h
      obtain hgraft | ⟨names, hnames, hbegins⟩ := ih _ h
      · obtain hbegins | hleads := leads_of_graft hgraft
        · exact .inr ⟨first, List.mem_cons_self, hbegins⟩
        · exact .inl hleads
      · exact .inr ⟨names, List.mem_cons_of_mem _ hnames, hbegins⟩
  refine (hfold [] h).resolve_left fun hnone => ?_
  obtain ⟨first, others, rfl⟩ := List.exists_cons_of_ne_nil hne
  obtain ⟨_, hmem, -⟩ := hnone
  exact absurd hmem List.not_mem_nil

end RelationTree

open RelationTree Model

/-- Whether something happens at a path of a forest of relations, a request being one for records of
the type that the path leads to. -/
def LoadEvent.Placed (g : Catalog) (s : Schema) (forest : List RelationTree) (e : LoadEvent) :
    Prop :=
  Leads e.path forest ∧ ∀ r, e.request? = some r →
    ∃ t, g.follow s e.path = .ok t ∧ r.method = .get ∧ r.path = Text.trim t.resourcePath

theorem LoadEvent.Placed.mono {g : Catalog} {s : Schema} {forest forest' : List RelationTree}
    {e : LoadEvent} (h : e.Placed g s forest) (hforest : ∀ tree ∈ forest, tree ∈ forest') :
    e.Placed g s forest' := by
  obtain ⟨hleads, hrequest⟩ := h
  refine ⟨?_, hrequest⟩
  cases hpath : e.path with
  | nil => trivial
  | cons name rest =>
    rw [hpath] at hleads
    obtain ⟨nested, hnested, hrest⟩ := hleads
    exact ⟨nested, hforest _ hnested, hrest⟩

/-- What happens at a path below a relation happens at that path behind the relation. -/
theorem LoadEvent.Placed.under {g : Catalog} {s : Schema} {name : String} {relation : Relation}
    {nested : List RelationTree} {e : LoadEvent} (hrelation : s.relation? name = .ok relation)
    (h : e.Placed g (g.target relation) nested) :
    (e.under name).Placed g s [.node name nested] := by
  obtain ⟨hleads, hrequest⟩ := h
  rw [Placed, path_under, request?_under]
  refine ⟨⟨nested, List.mem_singleton_self _, hleads⟩, fun r hr => ?_⟩
  obtain ⟨t, ht, hget⟩ := hrequest r hr
  refine ⟨t, ?_, hget⟩
  rw [Catalog.follow, hrelation]
  exact ht

namespace LoadLog

variable {g : Catalog} {config : Config} {s : Schema} {name : String} {relation : Relation}
  {nested : List RelationTree} {models models' : List Model} {log log' : LoadLog}
  {above above' : List (List Model)} {path : List String} {records : List Model}

/-- Where the records of a batch at a relation come from: they were attached to the records of a
batch before, or are those of the rows of an answer that the log tells. -/
def Source (g : Catalog) (config : Config) (s : Schema) (log : LoadLog) (above : List (List Model))
    (path : List String) (name : String) (records : List Model) : Prop :=
  (∃ batch ∈ above, anyLoaded name batch = true ∧ records = attached name batch) ∨
    ∃ r response t, .request (path ++ [name]) r (.ok response) ∈ log ∧
      response.check = .ok response ∧ g.follow s (path ++ [name]) = .ok t ∧
      ofRows? g config.strict t (response.rows config.envelope) = .ok records

theorem Source.mono (h : Source g config s log above path name records)
    (habove : ∀ batch ∈ above, batch ∈ above') (hlog : ∀ e ∈ log, e ∈ log') :
    Source g config s log' above' path name records := by
  obtain ⟨batch, hbatch, hattached⟩ | ⟨r, response, t, hrequest, hread⟩ := h
  · exact .inl ⟨batch, habove batch hbatch, hattached⟩
  · exact .inr ⟨r, response, t, hlog _ hrequest, hread⟩

/-- Records that were attached to some records are attached to others with the same attached. -/
theorem Source.congr (h : Source g config s log [models'] path name records)
    (hsame : List.Forall₂ (fun m m' => m'.related? name = m.related? name) models models') :
    Source g config s log [models] path name records := by
  refine h.imp_left ?_
  rintro ⟨batch, hbatch, hloaded, rfl⟩
  obtain rfl := List.mem_singleton.mp hbatch
  rw [(any_congr (hsame.imp fun _ _ => isLoaded_congr)).2] at hloaded
  exact ⟨models, List.mem_singleton_self _, hloaded, attached_congr hsame⟩

/-- Records that were read below a relation were read behind it. -/
theorem Source.under (hrelation : s.relation? name = .ok relation) {other : String}
    (h : Source g config (g.target relation) log above path other records) :
    Source g config s (log.map (·.under name)) above (name :: path) other records := by
  refine h.imp_right ?_
  rintro ⟨r, response, t, hrequest, hcheck, hfollow, hread⟩
  refine ⟨r, response, t, List.mem_map_of_mem (f := (·.under name)) hrequest, hcheck, ?_, hread⟩
  rw [List.cons_append, Catalog.follow, hrelation]
  exact hfollow

/-- Whether the records of every batch at a relation were attached to those of a batch at the path
before, or were read. -/
def Grounded (g : Catalog) (config : Config) (s : Schema) (log : LoadLog) (path : List String)
    (name : String) : Prop :=
  ∀ records ∈ batches log (path ++ [name]),
    Source g config s log (batches log path) path name records

namespace Grounded

theorem append (h : Grounded g config s log path name) (h' : Grounded g config s log' path name) :
    Grounded g config s (log ++ log') path name := by
  intro records hrecords
  rw [batches_append] at hrecords ⊢
  obtain hrecords | hrecords := List.mem_append.mp hrecords
  · exact (h records hrecords).mono (fun _ => List.mem_append_left _)
      fun _ => List.mem_append_left _
  · exact (h' records hrecords).mono (fun _ => List.mem_append_right _)
      fun _ => List.mem_append_right _

/-- What is grounded below a relation is so as it is seen from there. -/
theorem under (hrelation : s.relation? name = .ok relation) {other : String}
    (h : Grounded g config (g.target relation) log path other) :
    Grounded g config s (log.map (·.under name)) (name :: path) other := by
  intro records hrecords
  rw [List.cons_append, batches_under] at hrecords
  rw [batches_under]
  exact (h records hrecords).under hrelation

theorem of_none_at (h : ∀ e ∈ log, e.path ≠ path ++ [name]) :
    Grounded g config s log path name := by
  rw [Grounded, (none_at h).1]
  exact List.forall_mem_nil _

end Grounded

/-- What happens while a forest of relations is loaded onto some records, which are the first batch.
-/
structure Loads (g : Catalog) (config : Config) (s : Schema) (forest : List RelationTree)
    (models : List Model) (log : LoadLog) : Prop where
  rooted : ∀ e ∈ log, ∃ name ∈ roots forest, e.path.head? = some name
  placed : ∀ e ∈ log, e.Placed g s forest
  accounted : ∀ name,
    Accounted log [name] (anyPending name models).toNat (anyLoaded name models).toNat
  balanced : ∀ other path name, Balanced log (other :: path) name
  source : ∀ name, ∀ records ∈ batches log [name], Source g config s log [models] [] name records
  grounded : ∀ other path name, Grounded g config s log (other :: path) name

/-- What happens at a relation and below it, for whatever records. -/
structure Below (g : Catalog) (config : Config) (s : Schema) (name : String)
    (nested : List RelationTree) (log : LoadLog) : Prop where
  rooted : ∀ e ∈ log, e.path.head? = some name
  placed : ∀ e ∈ log, e.Placed g s [.node name nested]
  balanced : ∀ other path name, Balanced log (other :: path) name
  grounded : ∀ other path name, Grounded g config s log (other :: path) name

/-- What happens while pages of a query are read, from the first on or behind it: the first begins
the query, and the records of every page are one batch, that of its rows. -/
structure Paged (g : Catalog) (config : Config) (s : Schema) (name : String)
    (nested : List RelationTree) (first : Bool) (log : LoadLog) : Prop extends
    Below g config s name nested log where
  queries_le : (queries log [name]).length ≤ first.toNat
  batches_le : (batches log [name]).length ≤ (requests log [name]).length
  begun : first = true → queries log [name] = [] → requests log [name] = []
  read : ∀ records ∈ batches log [name], Source g config s log [] [] name records

/-- The log of loading relations onto some records, with these as the first batch. -/
def onto (models : List Model) (log : LoadLog) : LoadLog := .batch [] models :: log

/-- Nothing happens at the records themselves. -/
theorem Loads.none_at_records {forest : List RelationTree}
    (h : Loads g config s forest models log) :
    batches log [] = [] ∧ requests log [] = [] :=
  none_at fun e he hpath => by
    obtain ⟨name, -, hhead⟩ := h.rooted e he
    rw [hpath] at hhead
    cases hhead

/-- The only batch at the records themselves is the first. -/
theorem Loads.batches_onto {forest : List RelationTree} (h : Loads g config s forest models log) :
    batches (onto models log) [] = [models] := by
  show models :: batches log [] = [models]
  rw [h.none_at_records.1]

/-- With the first batch, all is balanced. -/
theorem Loads.balanced_onto {forest : List RelationTree} (h : Loads g config s forest models log)
    (path : List String) (name : String) : Balanced (onto models log) path name := by
  cases path with
  | cons other path =>
    obtain ⟨hqueries, hbatches, hbegun⟩ := h.balanced other path name
    exact ⟨hqueries, hbatches, hbegun⟩
  | nil =>
    have hcount : ∀ p : List Model → Bool,
        (batches (onto models log) []).countP p = (p models).toNat := by
      intro p
      rw [h.batches_onto, List.countP_singleton]
      cases p models <;> rfl
    obtain ⟨hqueries, hbatches, hbegun⟩ := h.accounted name
    rw [Balanced, hcount, hcount]
    exact ⟨hqueries, hbatches, hbegun⟩

/-- With the first batch, all is grounded. -/
theorem Loads.grounded_onto {forest : List RelationTree} (h : Loads g config s forest models log)
    (path : List String) (name : String) : Grounded g config s (onto models log) path name := by
  cases path with
  | cons other path =>
    exact fun records hrecords => (h.grounded other path name records hrecords).mono
      (fun _ hbatch => hbatch) fun _ => List.mem_cons_of_mem _
  | nil =>
    intro records hrecords
    rw [h.batches_onto]
    exact (h.source name records hrecords).mono (fun _ hbatch => hbatch)
      fun _ => List.mem_cons_of_mem _

/-- What is known of the log of a page whose relations are loaded: its first batch is the page, all
that happens is at a path of the names, the requests at a path are for records of the type that it
leads to, every batch has a relation queried once at most, and every other batch is of records that
were attached to those of a batch before, or of the rows of an answer. -/
structure OfPage (g : Catalog) (config : Config) (s : Schema) (names : List String)
    (models : List Model) (log : LoadLog) : Prop where
  page : batches log [] = [models]
  named : ∀ e ∈ log, e.path = [] ∨ ∃ dotted ∈ names, e.path <+: Text.pieces '.' dotted
  targets : ∀ path r answer, .request path r answer ∈ log → ∃ t, g.follow s path = .ok t ∧
    r.method = .get ∧ r.path = Text.trim t.resourcePath
  balanced : ∀ path name, Balanced log path name
  grounded : ∀ path name, Grounded g config s log path name

/-- The log of loading the forest of some names is that of a page. -/
theorem Loads.ofPage {names : List String} (h : Loads g config s (ofPaths names) models log) :
    OfPage g config s names models (onto models log) := by
  refine ⟨h.batches_onto, fun e he => ?_, fun path r answer hr => ?_, h.balanced_onto,
    h.grounded_onto⟩
  · rcases List.mem_cons.mp he with rfl | hlater
    · exact .inl rfl
    · exact or_iff_not_imp_left.mpr fun hne => leads_of_ofPaths hne (h.placed e hlater).1
  · rcases List.mem_cons.mp hr with hfirst | hlater
    · cases hfirst
    · exact (h.placed _ hlater).2 r rfl

/-! ## Below one relation -/

namespace Below

theorem nil : Below g config s name nested [] :=
  ⟨List.forall_mem_nil _, List.forall_mem_nil _, fun _ _ _ => .of_none_at (List.forall_mem_nil _),
    fun _ _ _ => .of_none_at (List.forall_mem_nil _)⟩

theorem append (h : Below g config s name nested log) (h' : Below g config s name nested log') :
    Below g config s name nested (log ++ log') :=
  ⟨List.forall_mem_append.mpr ⟨h.rooted, h'.rooted⟩,
    List.forall_mem_append.mpr ⟨h.placed, h'.placed⟩,
    fun other path x => (h.balanced other path x).append (h'.balanced other path x),
    fun other path x => (h.grounded other path x).append (h'.grounded other path x)⟩

/-- A request for the records of the relation. -/
theorem request (hrelation : s.relation? name = .ok relation) {r : Request}
    (hget : r.method = .get) (hpath : r.path = Text.trim (g.target relation).resourcePath)
    (answer : Except Error Response) :
    Below g config s name nested [.request [name] r answer] := by
  -- A request at the relation is none for what is loaded below it.
  have helsewhere (other : String) (path : List String) (x : String) :
      ∀ e ∈ ([.request [name] r answer] : LoadLog), e.path ≠ other :: path ++ [x] := by
    refine List.forall_mem_singleton.mpr fun hsame => ?_
    have hlength := congrArg List.length hsame
    simp [LoadEvent.path] at hlength
  refine ⟨List.forall_mem_singleton.mpr rfl, List.forall_mem_singleton.mpr ⟨?_, fun r' hr' => ?_⟩,
    fun other path x => .of_none_at (helsewhere other path x),
    fun other path x => .of_none_at (helsewhere other path x)⟩
  · exact ⟨nested, List.mem_singleton_self _, trivial⟩
  · obtain rfl := Option.some.inj hr'
    refine ⟨g.target relation, ?_, hget, hpath⟩
    show (s.relation? name).bind _ = _
    rw [hrelation]
    rfl

/-- What happens while relations are loaded onto a batch of the records. -/
theorem batch (hrelation : s.relation? name = .ok relation)
    (h : Loads g config (g.target relation) nested models log) :
    Below g config s name nested ((onto models log).map (·.under name)) := by
  have hrooted : ∀ e ∈ (onto models log).map (·.under name), e.path.head? = some name := by
    intro e he
    obtain ⟨e', -, rfl⟩ := List.mem_map.mp he
    rw [LoadEvent.path_under]
    rfl
  -- Nothing happens under another name.
  have helsewhere {other : String} (hname : other ≠ name) (path : List String) (x : String) :
      ∀ e ∈ (onto models log).map (·.under name), e.path ≠ other :: path ++ [x] := by
    intro e he hsame
    have hhead := hrooted e he
    rw [hsame] at hhead
    exact hname (Option.some.inj hhead)
  refine ⟨hrooted, fun e he => ?_, fun other path x => ?_, fun other path x => ?_⟩
  · obtain ⟨e', he', rfl⟩ := List.mem_map.mp he
    refine LoadEvent.Placed.under hrelation ?_
    rcases List.mem_cons.mp he' with rfl | hlater
    · exact ⟨trivial, nofun⟩
    · exact h.placed e' hlater
  · by_cases hname : other = name
    · rw [hname]
      exact (h.balanced_onto path x).under name
    · exact .of_none_at (helsewhere hname path x)
  · by_cases hname : other = name
    · rw [hname]
      exact (h.grounded_onto path x).under hrelation
    · exact .of_none_at (helsewhere hname path x)

end Below

/-- Records that came with those of a batch are one batch, and no query is begun for them. -/
theorem Loads.accounted_under (h : Loads g config s nested models log) (name : String) :
    Accounted ((onto models log).map (·.under name)) [name] 0 1 := by
  suffices hfirst : Accounted (onto models log) [] 0 1 from hfirst.under name
  have hrequests : requests (onto models log) [] = [] := h.none_at_records.2
  refine ⟨?_, ?_, fun _ => hrequests⟩
  · rw [queries, hrequests]
    exact Nat.le_refl 0
  · rw [h.batches_onto, hrequests]
    exact Nat.le_refl 1

namespace Paged

variable {first : Bool}

theorem nil : Paged g config s name nested first [] :=
  ⟨.nil, Nat.zero_le _, Nat.le_refl 0, fun _ _ => rfl, List.forall_mem_nil _⟩

/-- The pages behind one that was asked for begin no further query. -/
theorem append (h : Paged g config s name nested first log) (hsent : requests log [name] ≠ [])
    (h' : Paged g config s name nested false log') :
    Paged g config s name nested first (log ++ log') := by
  refine ⟨h.toBelow.append h'.toBelow, ?_, ?_, fun hfirst hnone => ?_, fun records hrecords => ?_⟩
  · rw [queries_append, List.length_append]
    exact Nat.add_le_add h.queries_le h'.queries_le
  · rw [batches_append, requests_append, List.length_append, List.length_append]
    exact Nat.add_le_add h.batches_le h'.batches_le
  · rw [queries_append] at hnone
    exact absurd (h.begun hfirst (List.append_eq_nil_iff.mp hnone).1) hsent
  · rw [batches_append] at hrecords
    obtain hrecords | hrecords := List.mem_append.mp hrecords
    · exact (h.read records hrecords).mono (fun _ hbatch => hbatch) fun _ => List.mem_append_left _
    · exact (h'.read records hrecords).mono (fun _ hbatch => hbatch)
        fun _ => List.mem_append_right _

/-- A page that is asked for, of which nothing is loaded onto. -/
theorem request (hrelation : s.relation? name = .ok relation) {r : Request}
    (hget : r.method = .get) (hpath : r.path = Text.trim (g.target relation).resourcePath)
    (answer : Except Error Response) :
    Paged g config s name nested (r.queryValue? "page").isNone [.request [name] r answer] := by
  have hqueries : queries [.request [name] r answer] [name] =
      bif (r.queryValue? "page").isNone then [r] else [] := by
    rw [queries, requests_request, List.filter_singleton]
  refine ⟨.request hrelation hget hpath answer, ?_, Nat.zero_le _, fun hfirst hnone => ?_,
    List.forall_mem_nil _⟩
  · rw [hqueries]
    cases (r.queryValue? "page").isNone
    · exact Nat.le_refl 0
    · exact Nat.le_refl 1
  · rw [hqueries, hfirst] at hnone
    cases hnone

/-- A page that is asked for, and whose records relations are loaded onto. -/
theorem page (hrelation : s.relation? name = .ok relation) {r : Request}
    (hget : r.method = .get) (hpath : r.path = Text.trim (g.target relation).resourcePath)
    {response : Response} (hcheck : response.check = .ok response)
    (hread : ofRows? g config.strict (g.target relation) (response.rows config.envelope) =
      .ok models)
    (h : Loads g config (g.target relation) nested models log) :
    Paged g config s name nested (r.queryValue? "page").isNone
      ([.request [name] r (.ok response)] ++ (onto models log).map (·.under name)) := by
  have hrequest : Paged g config s name nested (r.queryValue? "page").isNone
      [.request [name] r (.ok response)] := request hrelation hget hpath _
  obtain ⟨hqueries, hbatches, hbegun⟩ := h.accounted_under name
  -- What is loaded onto the page begins no query for the relation itself.
  have hnone := List.eq_nil_of_length_eq_zero (Nat.le_zero.mp hqueries)
  refine ⟨hrequest.toBelow.append (.batch hrelation h), ?_, ?_, ?_, fun records hrecords => ?_⟩
  · rw [queries_append, hnone, List.append_nil]
    exact hrequest.queries_le
  · rw [batches_append, requests_append, hbegun hnone, batches_request, requests_request]
    rwa [hbegun hnone] at hbatches
  · rw [queries_append, hnone, requests_append, hbegun hnone, List.append_nil, List.append_nil]
    exact hrequest.begun
  · rw [batches_append, batches_request, List.nil_append, batches_under, h.batches_onto] at hrecords
    obtain rfl := List.mem_singleton.mp hrecords
    refine .inr ⟨r, response, g.target relation, List.mem_cons_self, hcheck, ?_, hread⟩
    show (s.relation? name).bind _ = _
    rw [hrelation]
    rfl

/-- The pages of a query, from the first on, are one query, and the records are its own. -/
theorem accounted (h : Paged g config s name nested true log) : Accounted log [name] 1 0 :=
  ⟨h.queries_le, Nat.le_trans h.batches_le (Nat.le_add_left _ 0), h.begun rfl⟩

end Paged

/-! ## Forests -/

namespace Loads

theorem nil {forest : List RelationTree} : Loads g config s forest models [] :=
  ⟨List.forall_mem_nil _, List.forall_mem_nil _, fun _ => .of_none ⟨rfl, rfl⟩,
    fun _ _ _ => .of_none_at (List.forall_mem_nil _), fun _ => List.forall_mem_nil _,
    fun _ _ _ => .of_none_at (List.forall_mem_nil _)⟩

/-- Nothing happens at a relation that is no root. -/
theorem none_at_root {forest : List RelationTree} (h : Loads g config s forest models log)
    {other : String} (hother : other ∉ roots forest) :
    batches log [other] = [] ∧ requests log [other] = [] :=
  none_at_of_head fun e he hhead => by
    obtain ⟨name, hname, hroot⟩ := h.rooted e he
    obtain rfl := Option.some.inj (hroot.symm.trans hhead)
    exact hother hname

/-- A tree is loaded by what happens at its root and below, if that is accounted for. -/
theorem tree (hbelow : Below g config s name nested log)
    (h : Accounted log [name] (anyPending name models).toNat (anyLoaded name models).toNat)
    (hsource : ∀ records ∈ batches log [name], Source g config s log [models] [] name records) :
    Loads g config s [.node name nested] models log := by
  -- Nothing happens at another root.
  have helsewhere {other : String} (hname : other ≠ name) :
      batches log [other] = [] ∧ requests log [other] = [] :=
    none_at_of_head fun e he hhead =>
      hname (Option.some.inj (hhead.symm.trans (hbelow.rooted e he)))
  refine ⟨fun e he => ⟨name, List.mem_singleton_self _, hbelow.rooted e he⟩, hbelow.placed,
    fun other => ?_, hbelow.balanced, fun other => ?_, hbelow.grounded⟩
  · by_cases hname : other = name
    · rw [hname]
      exact h
    · exact .of_none (helsewhere hname)
  · by_cases hname : other = name
    · rw [hname]
      exact hsource
    · rw [(helsewhere hname).1]
      exact List.forall_mem_nil _

/-- The records that came along are one batch, and the relation is queried for the others. -/
theorem tree_of_inline (hrelation : s.relation? name = .ok relation) {below : LoadLog}
    (hinline : Loads g config (g.target relation) nested (attached name models) below)
    (hloaded : anyLoaded name models = true) (hbelow : Below g config s name nested log)
    (h : Accounted log [name] (anyPending name models).toNat 0)
    (hread : ∀ records ∈ batches log [name], Source g config s log [] [] name records) :
    Loads g config s [.node name nested] models
      ((onto (attached name models) below).map (·.under name) ++ log) := by
  have hboth := (hinline.accounted_under name).append h
  rw [Nat.zero_add] at hboth
  refine tree ((Below.batch hrelation hinline).append hbelow) ?_ fun records hrecords => ?_
  · rw [hloaded]
    exact hboth
  · -- A batch at the root is the one that came along, or one that was read.
    rw [batches_append, batches_under, hinline.batches_onto] at hrecords
    obtain hrecords | hrecords := List.mem_append.mp hrecords
    · exact .inl ⟨models, List.mem_singleton_self _, hloaded, List.mem_singleton.mp hrecords⟩
    · exact (hread records hrecords).mono (fun _ hbatch => absurd hbatch List.not_mem_nil)
        fun _ => List.mem_append_right _

/-- The trees of a forest are loaded one after another. What was loaded of the first is nothing that
the others look at. -/
theorem cons {tree : RelationTree} {rest : List RelationTree} (hapart : tree.name ∉ roots rest)
    (h : Loads g config s [tree] models log) (h' : Loads g config s rest models' log')
    (hsame : ∀ other ∈ roots rest,
      List.Forall₂ (fun m m' => m'.related? other = m.related? other) models models') :
    Loads g config s (tree :: rest) models (log ++ log') := by
  refine ⟨List.forall_mem_append.mpr ⟨fun e he => ?_, fun e he => ?_⟩,
    List.forall_mem_append.mpr ⟨fun e he => ?_, fun e he => ?_⟩, fun other => ?_,
    fun other path x => (h.balanced other path x).append (h'.balanced other path x),
    fun other records hrecords => ?_,
    fun other path x => (h.grounded other path x).append (h'.grounded other path x)⟩
  · obtain ⟨name, hname, hhead⟩ := h.rooted e he
    exact ⟨name, List.mem_cons.mpr (.inl (List.mem_singleton.mp hname)), hhead⟩
  · obtain ⟨name, hname, hhead⟩ := h'.rooted e he
    exact ⟨name, List.mem_cons_of_mem _ hname, hhead⟩
  · exact (h.placed e he).mono fun _ htree =>
      List.mem_cons.mpr (.inl (List.mem_singleton.mp htree))
  · exact (h'.placed e he).mono fun _ htree => List.mem_cons_of_mem _ htree
  -- A root is the first tree's or one of the others', and each is accounted for there.
  · by_cases hother : other ∈ roots rest
    · have hne : other ∉ roots [tree] := fun hmem => hapart (List.mem_singleton.mp hmem ▸ hother)
      have hnone : Accounted log [other] 0 0 := .of_none (h.none_at_root hne)
      obtain ⟨hpending, hloaded⟩ := any_congr ((hsame other hother).imp fun _ _ => isLoaded_congr)
      have hboth := hnone.append (h'.accounted other)
      rwa [Nat.zero_add, Nat.zero_add, hpending, hloaded] at hboth
    · have hnone : Accounted log' [other] 0 0 := .of_none (h'.none_at_root hother)
      exact (h.accounted other).append hnone
  · rw [batches_append] at hrecords
    obtain hrecords | hrecords := List.mem_append.mp hrecords
    · exact (h.source other records hrecords).mono (fun _ hbatch => hbatch)
        fun _ => List.mem_append_left _
    · -- The other trees have batches at their roots only, and there the first changed nothing.
      have hother : other ∈ roots rest := by
        by_contra hother
        rw [(h'.none_at_root hother).1] at hrecords
        cases hrecords
      exact ((h'.source other records hrecords).congr (hsame other hother)).mono
        (fun _ hbatch => hbatch) fun _ => List.mem_append_right _

end Loads

end LoadLog

end RestQuery
