import Mathlib.Data.List.Forall2
import Mathlib.Data.List.Nodup
import RestQuery.Page.Eager
import RestQuery.Proofs.Session
import RestQuery.Store

/-!
# Loading onto records that are attached

Where the server sent the records of a relation along, the relations below it are loaded onto these
records. They are taken from all models into one list, and dealt back after the loading by the
shapes that they were taken from. `Related.matches_refill` deals one of them back,
`Model.putBack_inPlace` all, and `Connection.loadInlineAt_inPlace` says that no record comes to
another place, for any loader that relates each record to one that it returns (`Loader.Relates`).

The loaders of trees of relations are such loaders, and call for this in turn, at every depth of a
tree. What they keep is `RelationTree.InPlace`: what was attached before has its shape and its
records in order. `Connection.loadForest_relates` is the induction on the trees, and
`Connection.loadInlineAt_keepsPlaces` the result for nested relations that are named by their paths.
-/

namespace RestQuery

open Session

/-! ## What is attached -/

namespace Related

variable {μ : Type} {R : μ → μ → Prop}

/-- Whether two things that are attached have the same shape, with records that are related in their
order. -/
inductive Matches (R : μ → μ → Prop) : Related μ → Related μ → Prop where
  | one {record record' : μ} (related : R record record') : Matches R (one record) (one record')
  | many {records records' : List μ} (related : List.Forall₂ R records records') :
      Matches R (many records) (many records')
  | nothing : Matches R nothing nothing

theorem Matches.refl (h : ∀ record, R record record) : ∀ r : Related μ, r.Matches R r
  | .one record => .one (h record)
  | .many _ => .many (List.forall₂_same.mpr fun record _ => h record)
  | .nothing => .nothing

theorem Matches.imp {S : μ → μ → Prop} (h : ∀ record record', R record record' → S record record')
    {r r' : Related μ} : r.Matches R r' → r.Matches S r'
  | .one hrecord => .one (h _ _ hrecord)
  | .many hrecords => .many (hrecords.imp h)
  | .nothing => .nothing

/-- What is filled with the first of some records has the shape of what they were taken from, and
leaves the records that come after. -/
theorem matches_refill (r : Related μ) {others records : List μ}
    (h : List.Forall₂ R (r.records ++ others) records) :
    r.Matches R (r.refill records).1 ∧ List.Forall₂ R others (r.refill records).2 := by
  cases r with
  | one record =>
    cases h with
    | cons hrecord hothers => exact ⟨.one hrecord, hothers⟩
  | many old =>
    have htake := List.forall₂_take old.length h
    have hdrop := List.forall₂_drop old.length h
    rw [Related.records, List.take_left] at htake
    rw [Related.records, List.drop_left] at hdrop
    exact ⟨.many htake, hdrop⟩
  | nothing => exact ⟨.nothing, h⟩

end Related

namespace Model

/-- Whether a record is another one with relations of some names loaded, and otherwise the same. -/
structure Extends (m' m : Model) (names : List String) : Prop where
  schema : m'.schema = m.schema
  attributes : m'.attributes = m.attributes
  snapshot : m'.snapshot = m.snapshot
  others : ∀ name ∉ names, m'.related? name = m.related? name
  loaded : ∀ name ∈ names, m'.isLoaded name = true

variable {m m' m'' : Model} {name : String} {names names' : List String}

theorem Extends.refl (h : ∀ name ∈ names, m.isLoaded name = true) : m.Extends m names :=
  ⟨rfl, rfl, rfl, fun _ _ => rfl, h⟩

theorem isLoaded_iff : m.isLoaded name = true ↔ ∃ r, m.related? name = some r :=
  Option.isSome_iff_exists

theorem isLoaded_congr (h : m'.related? name = m.related? name) :
    m'.isLoaded name = m.isLoaded name := congrArg Option.isSome h

theorem Extends.trans (h : m'.Extends m names) (h' : m''.Extends m' names') :
    m''.Extends m (names ++ names') where
  schema := h'.schema.trans h.schema
  attributes := h'.attributes.trans h.attributes
  snapshot := h'.snapshot.trans h.snapshot
  others name hname := by
    rw [List.mem_append, not_or] at hname
    exact (h'.others name hname.2).trans (h.others name hname.1)
  loaded name hname := by
    by_cases hlater : name ∈ names'
    · exact h'.loaded name hlater
    · rw [isLoaded_congr (h'.others name hlater)]
      exact h.loaded name ((List.mem_append.mp hname).resolve_right hlater)

theorem Extends.congr (h : m'.Extends m names) (hnames : ∀ name, name ∈ names ↔ name ∈ names') :
    m'.Extends m names' where
  schema := h.schema
  attributes := h.attributes
  snapshot := h.snapshot
  others name hname := h.others name fun hmem => hname ((hnames name).mp hmem)
  loaded name hname := h.loaded name ((hnames name).mpr hname)

theorem related?_attach (m : Model) (name other : String) (r : Related Model) :
    (m.attach name r).related? other = if name = other then some r else m.related? other :=
  KeyMap.get?_insert m.related name other r

theorem related?_detach (m : Model) (name other : String) :
    (m.detach name).related? other = if name = other then none else m.related? other :=
  KeyMap.get?_erase m.related name other

/-- A record with something attached through a relation has this relation loaded. -/
theorem extends_attach (m : Model) (name : String) (r : Related Model) :
    (m.attach name r).Extends m [name] where
  schema := rfl
  attributes := rfl
  snapshot := rfl
  others other hother := by
    rw [related?_attach, if_neg (Ne.symm (List.mem_singleton.not.mp hother))]
  loaded other hother := by
    rw [isLoaded_iff, related?_attach, if_pos (List.mem_singleton.mp hother).symm]
    exact ⟨r, rfl⟩

/-- The same holds if something else was attached through it before. -/
theorem extends_exchange (m : Model) (name : String) (r : Related Model) :
    ((m.detach name).attach name r).Extends m [name] where
  schema := rfl
  attributes := rfl
  snapshot := rfl
  others other hother := by
    have hne := Ne.symm (List.mem_singleton.not.mp hother)
    rw [related?_attach, if_neg hne, related?_detach, if_neg hne]
  loaded := (extends_attach (m.detach name) name r).loaded

/-- Whether what is attached to a record through a relation was exchanged, in its place, for records
that are related to those before. A record that the relation was not loaded for is the same. -/
structure ExchangesInline (R : Model → Model → Prop) (name : String) (m m' : Model) : Prop where
  attached : ∀ r, m.related? name = some r →
    m'.Extends m [name] ∧ ∃ r', m'.related? name = some r' ∧ r.Matches R r'
  unattached : m.isLoaded name = false → m' = m

/-! ## Taking records and putting them back -/

/-- A change at one position is not seen at others. -/
theorem getElem?_modify_of_not_mem {i : Nat} {positions : List Nat} (hi : i ∉ positions)
    (models : List Model) (f : Model → Model) :
    ∀ j ∈ positions, (models.modify i f)[j]? = models[j]? := fun _ hj =>
  List.getElem?_modify_ne _ _ fun heq => hi (heq ▸ hj)

theorem length_takeAt (name : String) (positions : List Nat) (models : List Model) :
    (takeAt name positions models).2.length = models.length := by
  induction positions generalizing models with
  | nil => rfl
  | cons i rest ih => exact (ih _).trans (List.length_modify ..)

/-- What is taken at different positions is what was attached there, or nothing. -/
theorem taken_eq (name : String) {positions : List Nat} (hdistinct : positions.Nodup)
    (models : List Model) : (takeAt name positions models).1 =
      positions.map fun i => (i, (models[i]?.bind (·.related? name)).getD .nothing) := by
  induction positions generalizing models with
  | nil => rfl
  | cons i rest ih =>
    obtain ⟨hi, hrest⟩ := List.nodup_cons.mp hdistinct
    rw [takeAt, ih hrest, List.map_cons]
    refine congrArg (_ :: ·) (List.map_congr_left fun j hj => ?_)
    rw [getElem?_modify_of_not_mem hi models _ j hj]

/-- The models at these positions are left without it, and the others as they were. -/
theorem getElem?_takeAt (name : String) {positions : List Nat} (hdistinct : positions.Nodup)
    (models : List Model) (j : Nat) : (takeAt name positions models).2[j]? =
      if j ∈ positions then models[j]?.map (·.detach name) else models[j]? := by
  induction positions generalizing models with
  | nil => exact (if_neg List.not_mem_nil).symm
  | cons i rest ih =>
    obtain ⟨hi, hrest⟩ := List.nodup_cons.mp hdistinct
    rw [takeAt, ih hrest]
    by_cases hj : j ∈ rest
    · rw [if_pos hj, if_pos (List.mem_cons_of_mem i hj), getElem?_modify_of_not_mem hi _ _ j hj]
    · rw [if_neg hj]
      by_cases heq : j = i
      · rw [heq, if_pos List.mem_cons_self, List.getElem?_modify_eq]
        rfl
      · rw [if_neg (List.not_mem_cons_of_ne_of_not_mem heq hj),
          List.getElem?_modify_ne _ _ (Ne.symm heq)]

/-- What was taken from one model is put back before the rest. -/
theorem putBack_of_cons {name : String} {i : Nat} {taken : Related Model}
    {rest : List (Nat × Related Model)} {records models loaded : List Model}
    (h : putBack name ((i, taken) :: rest) records models = .ok loaded) :
    putBack name rest (taken.refill records).2
      (models.modify i (·.attach name (taken.refill records).1)) = .ok loaded := by
  rw [putBack] at h
  rw [List.modify_eq_set_getElem?]
  cases hm : models[i]? with
  | none =>
    rw [hm] at h
    exact h
  | some m =>
    rw [hm] at h
    dsimp only [Model.populate] at h
    cases hdeclared : m.schema.relation? name with
    | error e =>
      rw [hdeclared] at h
      cases h
    | ok relation =>
      rw [hdeclared] at h
      exact h

theorem length_putBack {name : String} {taken : List (Nat × Related Model)}
    {records models loaded : List Model} (h : putBack name taken records models = .ok loaded) :
    loaded.length = models.length := by
  induction taken generalizing records models with
  | nil =>
    cases h
    rfl
  | cons entry rest ih => exact (ih (putBack_of_cons h)).trans (List.length_modify ..)

variable {R : Model → Model → Prop}

/-- Where records that are related to those that were taken are put back, every model gets back the
shape that it had, with its own. -/
theorem putBack_inPlace {taken : List (Nat × Related Model)} {records models loaded : List Model}
    (hdistinct : (taken.map Prod.fst).Nodup)
    (hrecords : List.Forall₂ R (taken.flatMap (·.2.records)) records)
    (h : putBack name taken records models = .ok loaded) :
    (∀ i ∉ taken.map Prod.fst, loaded[i]? = models[i]?) ∧ ∀ i r, (i, r) ∈ taken →
      ∃ r', r.Matches R r' ∧ loaded[i]? = models[i]?.map (·.attach name r') := by
  induction taken generalizing records models with
  | nil =>
    cases h
    exact ⟨fun _ _ => rfl, fun _ _ h => absurd h List.not_mem_nil⟩
  | cons entry rest ih =>
    obtain ⟨i, r⟩ := entry
    rw [List.map_cons, List.nodup_cons] at hdistinct
    obtain ⟨hi, hrest⟩ := hdistinct
    rw [List.flatMap_cons] at hrecords
    obtain ⟨hmatches, hothers⟩ := r.matches_refill hrecords
    obtain ⟨hframe, hplaces⟩ := ih hrest hothers (putBack_of_cons h)
    refine ⟨fun j hj => ?_, fun j s hs => ?_⟩
    · rw [List.map_cons, List.mem_cons, not_or] at hj
      rw [hframe j hj.2, List.getElem?_modify_ne _ _ (Ne.symm hj.1)]
    · rcases List.mem_cons.mp hs with heq | hs
      · cases heq
        refine ⟨_, hmatches, ?_⟩
        rw [hframe i hi, List.getElem?_modify_eq]
        rfl
      · obtain ⟨r', hr', hj⟩ := hplaces j s hs
        refine ⟨r', hr', ?_⟩
        have hne : i ≠ j := fun heq => hi (List.mem_map.mpr ⟨_, hs, heq.symm⟩)
        rw [hj, List.getElem?_modify_ne _ _ hne]

end Model

/-! ## Trees of relations -/

namespace RelationTree

/-- The relation at the root. -/
def name : RelationTree → String
  | node name _ => name

/-- The relations at the roots. -/
def roots (forest : List RelationTree) : List String := forest.map name

mutual

/-- Whether no two trees below one relation have the same root. -/
def Apart : RelationTree → Prop
  | node _ nested => AllApart nested

/-- Whether no two of some trees have the same root, nor two trees below one relation. -/
def AllApart : List RelationTree → Prop
  | [] => True
  | tree :: rest => tree.name ∉ roots rest ∧ tree.Apart ∧ AllApart rest

end

mutual

/-- Whether what was attached to a record through the root of a tree is in its place after the tree
was loaded: it has the same shape, and its records are in the same order, each with the trees below
loaded onto it, and what was attached to it in its place in turn. -/
def InPlace : RelationTree → Model → Model → Prop
  | node name nested, m, m' => ∀ r, m.related? name = some r → ∃ r', m'.related? name = some r' ∧
      r.Matches (fun record record' =>
        record'.Extends record (roots nested) ∧ AllInPlace nested record record') r'

/-- Whether what was attached to a record through the roots of some trees is in its place. -/
def AllInPlace : List RelationTree → Model → Model → Prop
  | [], _, _ => True
  | tree :: rest, m, m' => tree.InPlace m m' ∧ AllInPlace rest m m'

end

/-- Whether a record is another one with some trees of relations loaded onto it. -/
def Loaded (forest : List RelationTree) (m m' : Model) : Prop :=
  m'.Extends m (roots forest) ∧ AllInPlace forest m m'

variable {m m₁ m' m₁' : Model}

/-- Whether something is in its place is told by what is attached through the root. -/
theorem InPlace.congr {tree : RelationTree} (h : tree.InPlace m m')
    (hbefore : m₁.related? tree.name = m.related? tree.name)
    (hafter : m₁'.related? tree.name = m'.related? tree.name) : tree.InPlace m₁ m₁' := by
  obtain ⟨name, nested⟩ := tree
  unfold InPlace at h ⊢
  intro r hr
  obtain ⟨r', hr', hmatches⟩ := h r (hbefore.symm.trans hr)
  exact ⟨r', hafter.trans hr', hmatches⟩

theorem AllInPlace.congr {forest : List RelationTree} (h : AllInPlace forest m m')
    (hbefore : ∀ name ∈ roots forest, m₁.related? name = m.related? name) :
    AllInPlace forest m₁ m' := by
  induction forest with
  | nil => exact trivial
  | cons tree rest ih =>
    obtain ⟨htree, hrest⟩ := h
    obtain ⟨hroot, hroots⟩ := List.forall_mem_cons.mp hbefore
    exact ⟨htree.congr hroot rfl, ih hrest hroots⟩

/-- Onto a record that was loaded, trees with other roots can be loaded. -/
theorem Loaded.cons {tree : RelationTree} {rest : List RelationTree}
    (hapart : tree.name ∉ roots rest) (h : m'.Extends m [tree.name] ∧ tree.InPlace m m')
    (h' : Loaded rest m' m₁') : Loaded (tree :: rest) m m₁' := by
  obtain ⟨hextends, hplace⟩ := h
  obtain ⟨hextends', hplaces⟩ := h'
  refine ⟨hextends.trans hextends', hplace.congr rfl (hextends'.others _ hapart),
    hplaces.congr fun name hname => (hextends.others name ?_).symm⟩
  rw [List.mem_singleton]
  rintro rfl
  exact hapart hname

/-- The roots of a forest to which a root is added. -/
theorem mem_roots_place (name : String) (change : List RelationTree → List RelationTree)
    (forest : List RelationTree) {other : String} :
    other ∈ roots (place name change forest) ↔ other = name ∨ other ∈ roots forest := by
  induction forest with
  | nil => exact List.mem_cons
  | cons tree rest ih =>
    obtain ⟨root, nested⟩ := tree
    unfold place
    split
    · rename_i heq
      subst heq
      exact (or_iff_right_of_imp fun h => h ▸ List.mem_cons_self).symm
    · have hcons : ∀ rest, other ∈ roots (node root nested :: rest) ↔
          other = root ∨ other ∈ roots rest := fun _ => List.mem_cons
      rw [hcons, hcons, ih]
      exact or_left_comm

/-- Trees stay apart where the trees below one of them are changed to others that are. -/
theorem allApart_place (name : String) {change : List RelationTree → List RelationTree}
    (hchange : ∀ nested, AllApart nested → AllApart (change nested)) {forest : List RelationTree}
    (h : AllApart forest) : AllApart (place name change forest) := by
  induction forest with
  | nil => exact ⟨List.not_mem_nil, by unfold Apart; exact hchange [] trivial, trivial⟩
  | cons tree rest ih =>
    obtain ⟨root, nested⟩ := tree
    obtain ⟨hroot, htree, hrest⟩ := h
    unfold Apart at htree
    unfold place
    split
    · exact ⟨hroot, by unfold Apart; exact hchange nested htree, hrest⟩
    · rename_i hne
      refine ⟨fun hmem => ?_, by unfold Apart; exact htree, ih hrest⟩
      exact ((mem_roots_place name change rest).mp hmem).elim hne hroot

theorem allApart_graft (names : List String) {forest : List RelationTree} (h : AllApart forest) :
    AllApart (graft names forest) := by
  induction names generalizing forest with
  | nil => exact h
  | cons name rest ih => exact allApart_place name (fun _ => ih) h

/-- The forest of some paths has no root twice. -/
theorem allApart_ofPaths (paths : List String) : AllApart (ofPaths paths) := by
  have hfold : ∀ forest, AllApart forest →
      AllApart (paths.foldl (fun forest path => graft (Text.pieces '.' path) forest) forest) := by
    induction paths with
    | nil => exact fun _ h => h
    | cons path rest ih => exact fun forest h => ih _ (allApart_graft _ h)
  exact hfold [] trivial

/-- The first names of some paths. -/
def heads (paths : List String) : List String :=
  paths.map fun path => (Text.pieces '.' path).headD ""

/-- The forest of some paths has their first names at its roots. -/
theorem mem_roots_ofPaths (paths : List String) {name : String} :
    name ∈ roots (ofPaths paths) ↔ name ∈ heads paths := by
  have hfold : ∀ forest, name ∈ roots (paths.foldl
      (fun forest path => graft (Text.pieces '.' path) forest) forest) ↔
        name ∈ roots forest ∨ name ∈ heads paths := by
    induction paths with
    | nil => exact fun _ => (or_iff_left List.not_mem_nil).symm
    | cons path rest ih =>
      intro forest
      obtain ⟨first, others, hpieces⟩ := List.exists_cons_of_ne_nil (Text.pieces_ne_nil '.' path)
      have hheads : heads (path :: rest) = first :: heads rest := by
        rw [heads, List.map_cons, hpieces]
        rfl
      rw [List.foldl_cons, ih, hpieces, graft, mem_roots_place, hheads, List.mem_cons, or_assoc,
        or_left_comm]
  exact (hfold []).trans (or_iff_right List.not_mem_nil)

end RelationTree

/-! ## Loading -/

variable {σ : Type}

/-- Whether the records that come back from a loader are related, in order, to those before. -/
def Loader.Relates (R : Model → Model → Prop) (load : Loader σ) : Prop :=
  ∀ models, (load models).Returns (List.Forall₂ R models)

variable {R S T : Model → Model → Prop}

/-- Where a loader goes on with records that are returned, those that it returns are related to the
records before both. -/
theorem Loader.Relates.after {load : Loader σ} (h : load.Relates S) {models : List Model}
    {a : Session σ (List Model)} (ha : a.Returns (List.Forall₂ R models))
    (hcomp : ∀ m m' m'', R m m' → S m' m'' → T m m'') :
    (a >>= load).Returns (List.Forall₂ T models) := by
  have hlists : ∀ {models models' models'' : List Model}, List.Forall₂ R models models' →
      List.Forall₂ S models' models'' → List.Forall₂ T models models'' := by
    intro models models' models'' hR hS
    induction hR generalizing models'' with
    | nil =>
      cases hS
      exact .nil
    | cons hrecord _ ih =>
      cases hS with
      | cons hrecord' hrest => exact .cons (hcomp _ _ _ hrecord hrecord') (ih hrest)
  exact ha.bind fun loaded hloaded w after loaded' heval =>
    hlists hloaded (h loaded w after loaded' heval)

namespace Connection

variable {relation : Relation} {load : Loader σ}

/-- Loading onto the records that are attached at some positions leaves the models at others alone.
At each of the positions what is attached has the shape that it had, with the records that were
loaded onto its own, and nothing else is changed. -/
theorem loadInlineAt_inPlace (hload : load.Relates R) {positions : List Nat}
    (hdistinct : positions.Nodup) (models : List Model) :
    (loadInlineAt relation load positions models).Returns fun loaded =>
      loaded.length = models.length ∧ (∀ i ∉ positions, loaded[i]? = models[i]?) ∧
        ∀ i ∈ positions, ∀ m, models[i]? = some m → ∃ m' r', loaded[i]? = some m' ∧
          m'.Extends m [relation.name] ∧ m'.related? relation.name = some r' ∧
          ((m.related? relation.name).getD .nothing).Matches R r' := by
  have htaken := Model.taken_eq relation.name hdistinct models
  have hleft := Model.getElem?_takeAt relation.name hdistinct models
  have hpositions : (Model.takeAt relation.name positions models).1.map Prod.fst = positions := by
    rw [htaken, List.map_map]
    exact List.map_id positions
  refine (hload _).bind fun records hrecords => returns_lift fun loaded h => ?_
  obtain ⟨hframe, hplaces⟩ := Model.putBack_inPlace (by rwa [hpositions]) hrecords h
  rw [hpositions] at hframe
  refine ⟨(Model.length_putBack h).trans (Model.length_takeAt ..), fun i hi => ?_, ?_⟩
  · rw [hframe i hi, hleft, if_neg hi]
  · intro i hi m hm
    have hmem : (i, (m.related? relation.name).getD .nothing) ∈
        (Model.takeAt relation.name positions models).1 := by
      rw [htaken]
      exact List.mem_map.mpr ⟨i, hi, by rw [hm]; rfl⟩
    obtain ⟨r', hmatches, hloaded⟩ := hplaces i _ hmem
    rw [hleft, if_pos hi, hm] at hloaded
    refine ⟨_, r', hloaded, m.extends_exchange relation.name r', ?_, hmatches⟩
    rw [Model.related?_attach, if_pos rfl]

/-- The positions of the models that a relation was loaded for. -/
theorem mem_loadedPositions {name : String} {models : List Model} {i : Nat} :
    i ∈ loadedPositions name models ↔ ∃ m, models[i]? = some m ∧ m.isLoaded name = true := by
  rw [loadedPositions, List.mem_filter, List.mem_range, Option.any_eq_true]
  exact and_iff_right_of_imp fun ⟨m, hm, _⟩ => (List.getElem?_eq_some_iff.mp hm).1

/-- What is attached through a relation is loaded onto in its place, and models without it stay as
they are. -/
theorem loadInline_relates (hload : load.Relates R) :
    (loadInline relation load).Relates (Model.ExchangesInline R relation.name) := by
  intro models w after loaded h
  have hdistinct : (loadedPositions relation.name models).Nodup := List.nodup_range.filter _
  obtain ⟨hlength, hframe, hplaces⟩ :=
    loadInlineAt_inPlace hload hdistinct models w after loaded h
  refine List.forall₂_iff_get.mpr ⟨hlength.symm, fun i hi hi' => ⟨fun r hr => ?_, fun hnone => ?_⟩⟩
  · have hm : models[i]? = some (models.get ⟨i, hi⟩) := List.getElem?_eq_getElem hi
    have hmem := mem_loadedPositions.mpr ⟨_, hm, Model.isLoaded_iff.mpr ⟨r, hr⟩⟩
    obtain ⟨m', r', hm', hextends, hr', hmatches⟩ := hplaces i hmem _ hm
    rw [List.getElem?_eq_getElem hi'] at hm'
    obtain rfl := Option.some.inj hm'
    rw [hr] at hmatches
    exact ⟨hextends, r', hr', hmatches⟩
  · have hmem : i ∉ loadedPositions relation.name models := by
      rw [mem_loadedPositions]
      rintro ⟨m, hm, hloaded⟩
      rw [List.getElem?_eq_getElem hi] at hm
      cases hm
      exact Bool.false_ne_true (hnone.symm.trans hloaded)
    have hsame := hframe i hmem
    rw [List.getElem?_eq_getElem hi, List.getElem?_eq_getElem hi'] at hsame
    exact Option.some.inj hsame

/-- Reading what belongs to models attaches it to those for which it was not loaded. -/
theorem loadPending_relates (conn : Connection σ) (relation : Relation) (load : Loader σ) :
    (conn.loadPending relation load).Relates fun m m' =>
      m'.Extends m [relation.name] ∧ (m.isLoaded relation.name = true → m' = m) := by
  intro models
  have hkept : ∀ m : Model, m.isLoaded relation.name = true → m.Extends m [relation.name] :=
    fun m hm => .refl (List.forall_mem_singleton.mpr hm)
  have hattached : ∀ candidates : List Model,
      List.Forall₂ (fun m m' => m'.Extends m [relation.name] ∧
          (m.isLoaded relation.name = true → m' = m)) models
        (models.map fun m => if m.isLoaded relation.name then m
          else m.attach relation.name (relation.pick candidates m)) := by
    intro candidates
    refine List.forall₂_map_right_iff.mpr (List.forall₂_same.mpr fun m _ => ?_)
    split
    · rename_i hloaded
      exact ⟨hkept m hloaded, fun _ => rfl⟩
    · rename_i hnone
      exact ⟨m.extends_attach _ _, fun hloaded => absurd hloaded hnone⟩
  unfold loadPending
  dsimp only
  split
  · rename_i hempty
    refine returns_pure (List.forall₂_same.mpr fun m hm => ⟨hkept m ?_, fun _ => rfl⟩)
    by_contra hnone
    have hpending : m ∈ models.filter fun m => !m.isLoaded relation.name :=
      List.mem_filter.mpr ⟨hm, by simpa using hnone⟩
    rw [List.isEmpty_iff.mp hempty] at hpending
    exact List.not_mem_nil hpending
  split
  · exact (returns_true _).bind fun records _ => returns_pure (hattached records.models)
  · exact returns_pure (hattached [])

open RelationTree

/-- What is attached to models through a relation is in its place already if there is nothing to
load onto it. -/
theorem exchangesInline_same {name : String} {nested : List RelationTree} {models : List Model}
    (h : ¬ (models.any (·.isLoaded name) && !nested.isEmpty) = true) :
    List.Forall₂ (Model.ExchangesInline (Loaded nested) name) models models := by
  refine List.forall₂_same.mpr fun m hm => ⟨fun r hr => ?_, fun _ => rfl⟩
  have hloaded : m.isLoaded name = true := Model.isLoaded_iff.mpr ⟨r, hr⟩
  have hempty : nested = [] := by
    have hany : models.any (·.isLoaded name) = true := List.any_eq_true.mpr ⟨m, hm, hloaded⟩
    rw [hany, Bool.true_and] at h
    simpa using h
  subst hempty
  have hsame : ∀ record, Loaded [] record record := fun _ => ⟨.refl nofun, trivial⟩
  exact ⟨.refl (List.forall_mem_singleton.mpr hloaded), r, hr, .refl hsame r⟩

/-- What is in its place stays there when the relation is loaded for the other records. -/
theorem inPlace_of_exchangesInline {name : String} {nested : List RelationTree} {m m' m'' : Model}
    (h : m.ExchangesInline (Loaded nested) name m')
    (h' : m''.Extends m' [name] ∧ (m'.isLoaded name = true → m'' = m')) :
    m''.Extends m [name] ∧ (node name nested).InPlace m m'' := by
  obtain ⟨hextends', hkept⟩ := h'
  unfold InPlace
  cases hrelated : m.related? name with
  | none =>
    have hnone : m.isLoaded name = false := by
      rw [Model.isLoaded]
      exact congrArg Option.isSome hrelated
    rw [h.unattached hnone] at hextends'
    exact ⟨hextends', nofun⟩
  | some r =>
    obtain ⟨hextends, r', hr', hmatches⟩ := h.attached r hrelated
    rw [hkept (hextends.loaded name List.mem_cons_self)]
    refine ⟨hextends, fun _ heq => ?_⟩
    cases heq
    exact ⟨r', hr', hmatches⟩

mutual

/-- Loading a tree of relations extends every record by its root, with what was attached through it
in its place. -/
theorem loadTree_relates (conn : Connection σ) (s : Schema) :
    ∀ tree : RelationTree, tree.Apart →
      (conn.loadTree s tree).Relates fun m m' => m'.Extends m [tree.name] ∧ tree.InPlace m m'
  | .node name nested, hapart => by
    unfold Apart at hapart
    have hnested (t : Schema) := loadForest_relates conn t nested hapart
    intro models
    unfold loadTree
    refine (returns_lift (P := fun r => r.name = name) fun _ => Schema.name_of_relation?).bind ?_
    rintro relation rfl
    dsimp only
    split
    · exact (loadPending_relates conn relation _).after (loadInline_relates (hnested _) models)
        fun _ _ _ => inPlace_of_exchangesInline
    · rename_i hnone
      exact (loadPending_relates conn relation _).after (returns_pure (exchangesInline_same hnone))
        fun _ _ _ => inPlace_of_exchangesInline

/-- Loading some trees of relations loads them onto every record. -/
theorem loadForest_relates (conn : Connection σ) (s : Schema) :
    ∀ forest : List RelationTree, AllApart forest →
      (conn.loadForest s forest).Relates (Loaded forest)
  | [], _ => by
    intro models
    unfold loadForest
    exact returns_pure (List.forall₂_same.mpr fun m _ => ⟨.refl nofun, trivial⟩)
  | tree :: rest, hapart => by
    obtain ⟨hroot, htree, hrest⟩ := hapart
    intro models
    unfold loadForest
    exact (loadForest_relates conn s rest hrest).after (loadTree_relates conn s tree htree models)
      fun _ _ _ => Loaded.cons hroot

end

/-- Loading nested relations keeps inline records in place. Models at other positions are unchanged.
At each position the relation keeps its shape, and its records come back in their order, each
extended by the first names of the nested relations, with what was attached through these in its
place in turn; nothing else of the model is changed. -/
theorem loadInlineAt_keepsPlaces (conn : Connection σ) (relation : Relation) (nested : List String)
    {positions : List Nat} (hdistinct : positions.Nodup) {models : List Model}
    (hloaded : ∀ i ∈ positions, ∃ m, models[i]? = some m ∧ m.isLoaded relation.name = true) :
    (loadInlineAt relation (conn.loadForest (conn.catalog.target relation) (ofPaths nested))
        positions models).Returns fun loaded =>
      loaded.length = models.length ∧ (∀ i ∉ positions, loaded[i]? = models[i]?) ∧
        ∀ i ∈ positions, ∃ m m' r r', models[i]? = some m ∧ loaded[i]? = some m' ∧
          m'.Extends m [relation.name] ∧ m.related? relation.name = some r ∧
          m'.related? relation.name = some r' ∧
          r.Matches (fun record record' => record'.Extends record (heads nested) ∧
            AllInPlace (ofPaths nested) record record') r' := by
  have hload := loadForest_relates conn (conn.catalog.target relation) _ (allApart_ofPaths nested)
  intro w after loaded h
  obtain ⟨hlength, hframe, hplaces⟩ :=
    loadInlineAt_inPlace hload hdistinct models w after loaded h
  refine ⟨hlength, hframe, fun i hi => ?_⟩
  obtain ⟨m, hm, hmloaded⟩ := hloaded i hi
  obtain ⟨r, hr⟩ := Model.isLoaded_iff.mp hmloaded
  obtain ⟨m', r', hm', hextends, hr', hmatches⟩ := hplaces i hi m hm
  rw [hr] at hmatches
  refine ⟨m, m', r, r', hm, hm', hextends, hr, hr', hmatches.imp fun record record' h => ?_⟩
  exact ⟨h.1.congr fun _ => mem_roots_ofPaths nested, h.2⟩

/-- Shelves with two books, with one that was not loaded, with a single one and with none. The author
of a book is read by a further request, unless the book came with it. -/
theorem loadInlineAt_keepsPlaces_shelves :
    let books : Relation :=
      { name := "books", target := "Book", multiple := true, link := [("shelf_id", "id")] }
    let author : Relation :=
      { name := "author", target := "Author", multiple := false, link := [("id", "author_id")] }
    let shelf : Schema := { typeName := "Shelf", fields := ["id"], relations := [books] }
    let book : Schema := { typeName := "Book", fields := ["id", "author_id"], relations := [author] }
    let writer : Schema := { typeName := "Author", fields := ["id"] }
    let conn : Connection Store :=
      { catalog := [shelf, book, writer], config := {}, auth := .none, answer := Store.send {}
        pageBudget := 3 }
    let w : World Store :=
      { backend := Store.serve {} "authors" [.object [("id", .nat 7)], .object [("id", .nat 8)]] }
    let written (id author : Nat) : Model :=
      ⟨book, [("author_id", .nat author), ("id", .nat id)], none, []⟩
    let models : List Model :=
      [⟨shelf, [("id", .nat 1)], none, [("books", .many [written 1 8, written 2 7])]⟩,
        ⟨shelf, [("id", .nat 2)], none, []⟩,
        ⟨shelf, [("id", .nat 3)], none, [("books", .one ((written 3 8).attach "author" .nothing))]⟩,
        ⟨shelf, [("id", .nat 4)], none, [("books", .nothing)]⟩]
    let positions := [0, 2, 3]
    positions.Nodup ∧
      (∀ i ∈ positions, ∃ m, models[i]? = some m ∧ m.isLoaded books.name = true) ∧
      ∃ loaded, (eval (loadInlineAt books (conn.loadForest (conn.catalog.target books)
          (ofPaths ["author"])) positions models) w).1 = .ok loaded ∧
        loaded[1]? = models[1]? ∧
        ∀ i ∈ positions, ∃ m m' r r', models[i]? = some m ∧ loaded[i]? = some m' ∧
          m'.Extends m ["books"] ∧ m.related? "books" = some r ∧ m'.related? "books" = some r' ∧
          r.Matches (fun record record' => record'.Extends record ["author"] ∧
            AllInPlace (ofPaths ["author"]) record record') r' := by
  intro books author shelf book writer conn w written models positions
  have hdistinct : positions.Nodup := by decide
  have hloaded : ∀ i ∈ positions, ∃ m, models[i]? = some m ∧ m.isLoaded books.name = true := by
    simp only [positions, List.forall_mem_cons]
    exact ⟨⟨_, rfl, rfl⟩, ⟨_, rfl, rfl⟩, ⟨_, rfl, rfl⟩, nofun⟩
  have hok : (eval (loadInlineAt books (conn.loadForest (conn.catalog.target books)
      (ofPaths ["author"])) positions models) w).1.isOk = true := by decide +kernel
  refine ⟨hdistinct, hloaded, ?_⟩
  rcases hrun : eval (loadInlineAt books (conn.loadForest (conn.catalog.target books)
      (ofPaths ["author"])) positions models) w with ⟨e | loaded, after⟩
  · rw [hrun] at hok
    cases hok
  · obtain ⟨-, hframe, hplaces⟩ :=
      loadInlineAt_keepsPlaces conn books ["author"] hdistinct hloaded w after loaded hrun
    have hheads : heads ["author"] = ["author"] := by decide +kernel
    rw [hheads] at hplaces
    exact ⟨loaded, rfl, hframe 1 (by decide), hplaces⟩

end Connection

end RestQuery
