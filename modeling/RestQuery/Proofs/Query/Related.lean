import RestQuery.Proofs.Page.Alike
import RestQuery.Proofs.Page.Linked
import RestQuery.Proofs.Query.Returns

/-!
# Records with the records that belong to them

A query that names relations of its type reads the related records by further requests and attaches
to every record those that belong to it. `Catalog.attachAll` says what that comes to: for each
relation the pick among all rows of the target's collection. The loader of a query comes to the same
(`Connection.eval_loadForest`), although it asks for a part of these rows, page by page.

So the query gives the records that it gives without the relations (`Query.bare`), each with what is
attached to it, and the two are read in step (`Query.LoadsFrom.pagesAlike`).
`Connection.all_populates` is the result for all records.
-/

namespace RestQuery

open Session Text

/-! ## Relations that are named by plain paths -/

namespace RelationTree

/-- A relation to load without others below it. -/
def leaf (name : String) : RelationTree := .node name []

/-- A name that is put into a forest of such relations is added if it is not there. -/
theorem place_leaves (name : String) (held : List String) :
    place name (graft []) (held.map leaf) =
      (if held.contains name then held else held ++ [name]).map leaf := by
  have hgraft : ∀ forest, graft [] forest = forest := fun _ => rfl
  induction held with
  | nil => rfl
  | cons other rest ih =>
    rw [List.map_cons, leaf, place, hgraft]
    by_cases hother : other = name
    · rw [if_pos hother, hother, List.contains_cons, beq_self_eq_true, Bool.true_or, if_pos rfl]
      rfl
    · have hne : (name == other) = false := beq_eq_false_iff_ne.mpr (Ne.symm hother)
      rw [if_neg hother, ih, List.contains_cons, hne, Bool.false_or]
      split <;> rfl

/-- The forest of paths of one name each has a tree for each name. -/
theorem ofPaths_plain {paths : List String} (h : ∀ path ∈ paths, pieces '.' path = [path]) :
    ofPaths paths = (Query.addNew [] paths).map leaf := by
  unfold ofPaths Query.addNew
  -- The paths are put in one by one, so the induction is over any names held before.
  suffices hfrom : ∀ held : List String,
      paths.foldl (fun forest path => graft (pieces '.' path) forest) (held.map leaf) =
        (paths.foldl (fun acc name => if acc.contains name then acc else acc ++ [name]) held).map
          leaf by
    exact hfrom []
  induction paths with
  | nil => exact fun _ => rfl
  | cons path rest ih =>
    intro held
    have hplaced : graft (pieces '.' path) (held.map leaf) =
        (if held.contains path then held else held ++ [path]).map leaf := by
      rw [h path List.mem_cons_self, graft]
      exact place_leaves path held
    rw [List.foldl_cons, List.foldl_cons, hplaced]
    exact ih (fun path hpath => h path (List.mem_cons_of_mem _ hpath)) _

end RelationTree

/-- Names that are added to distinct ones where they are new are distinct, and none is lost. -/
theorem Query.addNew_spec (names : List String) {held : List String} (hheld : held.Nodup) :
    (addNew held names).Nodup ∧ ∀ name, name ∈ addNew held names ↔ name ∈ held ∨ name ∈ names := by
  unfold addNew
  induction names generalizing held with
  | nil => exact ⟨hheld, fun name => by simp⟩
  | cons first rest ih =>
    rw [List.foldl_cons]
    split
    · rename_i hknown
      have hmem : first ∈ held := List.contains_iff_mem.mp hknown
      obtain ⟨hnodup, hiff⟩ := ih hheld
      refine ⟨hnodup, fun name => (hiff name).trans ?_⟩
      rw [List.mem_cons]
      refine ⟨Or.imp_right .inr, ?_⟩
      rintro (hname | rfl | hname)
      · exact .inl hname
      · exact .inl hmem
      · exact .inr hname
    · rename_i hnew
      have hfresh : first ∉ held := fun hmem => hnew (List.contains_iff_mem.mpr hmem)
      have hadded : (held ++ [first]).Nodup := by
        refine List.nodup_append.mpr ⟨hheld, List.pairwise_singleton _ _, ?_⟩
        intro a ha b hb
        rw [List.mem_singleton.mp hb]
        rintro rfl
        exact hfresh ha
      obtain ⟨hnodup, hiff⟩ := ih hadded
      refine ⟨hnodup, fun name => (hiff name).trans ?_⟩
      rw [List.mem_append, List.mem_singleton, List.mem_cons, or_assoc]

/-! ## What is attached -/

namespace Catalog

variable (g : Catalog) (collections : KeyMap (List Json)) (t : Schema)

/-- The rows that a store holds of the target of a relation. -/
def targetRows (r : Relation) : List Json :=
  (KeyMap.get? collections
    (Store.collectionPath (trim (g.target r).resourcePath))).getD []

/-- The records that a store holds of the target of a relation. -/
def recordsOf (r : Relation) : List Model :=
  (g.targetRows collections r).map (Model.ofFields (g.target r))

/-- A record with what belongs to it through the relation of a name. -/
def attach (m : Model) (name : String) : Model :=
  match t.relation? name with
  | .ok r => m.attach r.name (r.pick (g.recordsOf collections r) m)
  | .error _ => m

/-- A record with what belongs to it through the relations of some names. -/
def attachAll (names : List String) (m : Model) : Model :=
  names.foldl (g.attach collections t) m

variable {g collections t} {names : List String} {name : String} {m : Model} {r : Relation}

/-- The attributes are left alone. -/
theorem attributes_attach (m : Model) (name : String) :
    (g.attach collections t m name).attributes = m.attributes := by
  unfold attach
  split <;> rfl

theorem attributes_attachAll (names : List String) (m : Model) :
    (g.attachAll collections t names m).attributes = m.attributes := by
  unfold attachAll
  induction names generalizing m with
  | nil => rfl
  | cons name rest ih => exact (ih _).trans (attributes_attach m name)

/-- What is picked depends on the attributes only. -/
theorem pick_congr {m' : Model} (r : Relation) (targets : List Model)
    (h : m'.attributes = m.attributes) : r.pick targets m' = r.pick targets m := by
  have hlinks : r.links m' = r.links m := by
    funext target
    rw [Relation.links, Relation.links, h]
  rw [Relation.pick, Relation.pick, hlinks]

/-- What belongs to a record through a relation is attached to it, and stays so. -/
theorem related?_attach (h : t.relation? name = .ok r) {other : String}
    (hother : other = name ∨ m.related? name = some (r.pick (g.recordsOf collections r) m)) :
    (g.attach collections t m other).related? name =
      some (r.pick (g.recordsOf collections r) m) := by
  have hattached : ∀ (s : Relation) (found : Related Model), (m.attach s.name found).related? name =
      if s.name = name then some found else m.related? name :=
    fun s found => KeyMap.get?_insert m.related s.name name found
  by_cases hsame : other = name
  · rw [attach, hsame, h]
    exact (hattached r _).trans (if_pos (Schema.name_of_relation? h))
  · have hkept := hother.resolve_left hsame
    unfold attach
    split
    · rename_i s hs
      have hne : s.name ≠ name := fun hname =>
        hsame ((Schema.name_of_relation? hs).symm.trans hname)
      exact ((hattached s _).trans (if_neg hne)).trans hkept
    · exact hkept

/-- What belongs to a record through a relation is attached to it, whatever else is. -/
theorem related?_attachAll (h : t.relation? name = .ok r)
    (hname : name ∈ names ∨ m.related? name = some (r.pick (g.recordsOf collections r) m)) :
    (g.attachAll collections t names m).related? name =
      some (r.pick (g.recordsOf collections r) m) := by
  unfold attachAll
  induction names generalizing m with
  | nil => exact hname.resolve_left List.not_mem_nil
  | cons other rest ih =>
    -- The pick is the same for a record to which something else is attached.
    have hsame : r.pick (g.recordsOf collections r) (g.attach collections t m other) =
        r.pick (g.recordsOf collections r) m := pick_congr r _ (attributes_attach m other)
    rw [List.foldl_cons, ← hsame]
    apply ih
    rw [hsame]
    rcases hname with hmem | hheld
    · rcases List.mem_cons.mp hmem with rfl | hrest
      · exact .inr (related?_attach h (.inl rfl))
      · exact .inl hrest
    · exact .inr (related?_attach h (.inr hheld))

/-- Nothing is attached through other relations. -/
theorem isLoaded_attach {other : String} (hne : other ≠ name) (h : m.isLoaded name = false) :
    (g.attach collections t m other).isLoaded name = false := by
  unfold attach
  split
  · rename_i s hs
    have hother : s.name ≠ name := fun hname => hne ((Schema.name_of_relation? hs).symm.trans hname)
    unfold Model.isLoaded KeyMap.contains at h ⊢
    rw [Model.attach, KeyMap.get?_insert, if_neg hother]
    exact h
  · exact h

end Catalog

/-! ## Reading what belongs -/

/-- A connection to a store whose pages of the usual size both sides allow. -/
structure Connection.ReadsPages (conn : Connection Store) (s : Store.Settings) : Prop where
  answer : conn.answer = Store.send s
  pageHeaders : conn.config.pageHeaders = s.pageHeaders
  distinct : s.pageHeaders.Distinct
  size_pos : 1 ≤ s.pageSize
  size_le : s.pageSize ≤ conn.config.maxPerPage
  size_le_store : s.pageSize ≤ s.maxPageSize
  maxPerPage_le : conn.config.maxPerPage ≤ maxWord64

/-- A relation whose target a store serves: rows with declared fields, each of them once, over no
more pages than a loop may read. -/
structure Relation.Served (conn : Connection Store) (s : Store.Settings)
    (collections : KeyMap (List Json)) (r : Relation) : Prop where
  unbroken : ∀ pair ∈ r.link, Unbroken pair.1
  served : KeyMap.get? collections
      (Store.collectionPath (trim (conn.catalog.target r).resourcePath)) =
    some (conn.catalog.targetRows collections r)
  declares : ∀ row ∈ conn.catalog.targetRows collections r, (conn.catalog.target r).Declares row
  once : ∀ row ∈ conn.catalog.targetRows collections r, (row.members.map Prod.fst).Nodup
  length_le : (conn.catalog.targetRows collections r).length ≤ maxWord64
  budget : max 1 (((conn.catalog.targetRows collections r).length + s.pageSize - 1) / s.pageSize) <
    conn.pageBudget

/-- A record with what is picked for it of some records, unless something is attached to it. -/
def Relation.attachNew (r : Relation) (candidates : List Model) (m : Model) : Model :=
  if m.isLoaded r.name then m else m.attach r.name (r.pick candidates m)

namespace Connection

variable {conn : Connection Store} {s : Store.Settings} {collections : KeyMap (List Json)}
  {t : Schema} {r : Relation} {models : List Model} {w : World Store}

/-- A query for the rows of the target under a condition gives the records of the rows that meet it.
-/
theorem eval_targets (hconn : conn.ReadsPages s) (hr : r.Served conn s collections)
    (hw : w.Holds collections) {c : Condition} {filter : Filter} (hc : c.compile [] = .ok filter) :
    ∃ w', eval (conn.allWith pure ((Query.of (conn.catalog.target r)).filter c)) w =
        (.ok (.numbered (((conn.catalog.targetRows collections r).filter
          (Store.meetsAll (Store.criteria (Wire.filterPairs filter)))).map
            (Model.ofFields (conn.catalog.target r)))), w') ∧ w'.Holds collections := by
  let target := conn.catalog.target r
  let q : Query := (Query.of target).filter c
  let rows := conn.catalog.targetRows collections r
  have hfilter : q.compiledFilter [] = .ok filter := hc
  have hpages : q.pageClauses conn.config = (none, none) := rfl
  obtain ⟨d, hd, huri, hclause⟩ : ∃ d, q.describe conn.catalog conn.config [] = .ok d ∧
      d.uri = trim target.resourcePath ∧
        d.clauses.filter = if filter.isEmpty then none else some filter :=
    ⟨_, Query.describe_of_filter conn.catalog conn.config rfl hfilter, rfl, rfl⟩
  have hmatching : Store.matching rows d.clauses.pairs =
      rows.filter (Store.meetsAll (Store.criteria (Wire.filterPairs filter))) := by
    rw [Store.matching, Clauses.criteria_pairs, hclause]
    cases filter <;> rfl
  have hread : StoredRead conn s q target d rows s.pageSize :=
    { answer := hconn.answer, pageHeaders := hconn.pageHeaders, distinct := hconn.distinct
      schema := rfl, select := rfl, joins := rfl, pending := rfl, eager := rfl, index := rfl
      compiles := hd, declares := hr.declares, size_eq := rfl, size_pos := hconn.size_pos
      size_le := hconn.size_le, size_le_store := hconn.size_le_store, dvd_offset := Nat.dvd_zero _
      maxPerPage_le := hconn.maxPerPage_le, length_le := hr.length_le, end_le := by
        refine .inr ?_
        show 0 + s.pageSize ≤ maxWord64
        rw [Nat.zero_add]
        exact Nat.le_trans hconn.size_le hconn.maxPerPage_le }
  have hserves : w.Serves d.uri rows := by
    refine ⟨hw.toOpen, hw.queued, ?_⟩
    rw [hw.collections, huri]
    exact hr.served
  have hbudget : q.requestCount s.pageSize (Store.matching rows d.clauses.pairs).length <
      conn.pageBudget :=
    -- The rows that meet the condition fill no more pages than all rows do.
    Nat.lt_of_le_of_lt (Query.requestCount_le rfl rfl s.pageSize (List.length_filter_le ..))
      hr.budget
  have hdeclares : ∀ row ∈ Store.matching rows d.clauses.pairs, target.Declares row :=
    fun row hrow => hr.declares row (List.mem_filter.mp hrow).1
  have hfound := Model.ofRows?_of_declares conn.catalog conn.config.strict hdeclares
  obtain ⟨w', heval, -⟩ := hread.eval_all hserves hfound hbudget
  rw [hmatching] at heval
  have hall : conn.all q = conn.allWith pure q := by rw [all, conn.loader_eq_pure rfl]
  have hholds := (steady_all (Cursor.steady_holds hconn.answer collections) q).keeps w hw
  rw [heval] at hholds
  exact ⟨w', hall ▸ heval, hholds⟩

/-- Where there is nothing to ask for, nothing is enough for every record. -/
theorem pick_nil_of_condition? (hcondition : r.condition? models = none) {m : Model}
    (hm : m ∈ models) : r.pick [] m = r.pick (conn.catalog.recordsOf collections r) m := by
  have hnone : (conn.catalog.targetRows collections r).filter (fun _ => false) = [] :=
    List.filter_eq_nil_iff.mpr fun _ _ => Bool.false_ne_true
  rw [Catalog.recordsOf, ← Relation.pick_filter (p := fun _ => false), hnone, List.map_nil]
  intro row _ hbelongs
  exact absurd hbelongs (Relation.not_belongs_of_condition?_eq_none hcondition hm)

/-- The related records that are read are enough for every record whose links are plain. -/
theorem exists_candidates (hconn : conn.ReadsPages s) (hr : r.Served conn s collections)
    (hlinks : r.Askable models) (hw : w.Holds collections) {c : Condition}
    (hcondition : r.condition? models = some c) :
    ∃ candidates w', eval (conn.allWith pure ((Query.of (conn.catalog.target r)).filter c)) w =
        (.ok (.numbered candidates), w') ∧ w'.Holds collections ∧
      ∀ m ∈ models, r.LinksPlain m →
        r.pick candidates m = r.pick (conn.catalog.recordsOf collections r) m := by
  obtain ⟨filter, hcompile, hmeets⟩ :=
    Relation.exists_compile_condition hr.unbroken hlinks hcondition
  obtain ⟨w', heval, hholds⟩ := eval_targets hconn hr hw hcompile
  exact ⟨_, w', heval, hholds, fun m hm hplain => Relation.pick_filter _ fun row hrow hbelongs =>
    hmeets _ row (hr.once row hrow) m hm hplain hbelongs⟩

/-- Loading a relation attaches to every record what is picked for it of some records, unless the
relation was loaded for it. For a record whose links are plain that is what belongs to it. -/
theorem eval_loadPending (hconn : conn.ReadsPages s) (hr : r.Served conn s collections)
    (hlinks : r.Askable models) (hw : w.Holds collections) :
    ∃ candidates w', eval (conn.loadPending r pure models) w =
        (.ok (models.map (r.attachNew candidates)), w') ∧ w'.Holds collections ∧
      ∀ m ∈ models, m.isLoaded r.name = false → r.LinksPlain m →
        r.pick candidates m = r.pick (conn.catalog.recordsOf collections r) m := by
  have hpending : ∀ m ∈ models, m.isLoaded r.name = false →
      m ∈ models.filter fun m => !m.isLoaded r.name :=
    fun m hm hfresh => List.mem_filter.mpr ⟨hm, by rw [hfresh]; rfl⟩
  have hasked : r.Askable (models.filter fun m => !m.isLoaded r.name) :=
    hlinks.imp_right fun hplain m hm => hplain m (List.mem_filter.mp hm).1
  unfold loadPending
  dsimp only
  generalize (models.filter fun m => !m.isLoaded r.name) = pending at hpending hasked ⊢
  split
  · -- Nothing is read where the relation was loaded for all records.
    rename_i hnone
    have hloaded : ∀ m ∈ models, m.isLoaded r.name = true := by
      intro m hm
      by_contra hfresh
      have hin := hpending m hm (Bool.eq_false_iff.mpr hfresh)
      rw [List.isEmpty_iff.mp hnone] at hin
      cases hin
    have hkept : models.map (r.attachNew []) = models :=
      (List.map_congr_left fun m hm => if_pos (hloaded m hm)).trans (List.map_id models)
    refine ⟨[], w, ?_, hw, fun m hm hfresh => ?_⟩
    · rw [hkept]
      rfl
    · rw [hloaded m hm] at hfresh
      cases hfresh
  cases hcondition : r.condition? pending with
  | none =>
    refine ⟨[], w, ?_, hw, fun m hm hfresh _ =>
      pick_nil_of_condition? hcondition (hpending m hm hfresh)⟩
    dsimp only
    rw [pure_bind, eval_pure]
    rfl
  | some c =>
    obtain ⟨candidates, w', heval, hholds, hpick⟩ :=
      exists_candidates hconn hr hasked hw hcondition
    refine ⟨candidates, w', ?_, hholds, fun m hm hfresh => hpick m (hpending m hm hfresh)⟩
    dsimp only
    rw [eval_bind_ok heval, pure_bind, eval_pure, RecordSet.models_numbered]
    rfl

/-- Loading a relation without others below it comes to the same. -/
theorem eval_loadLeaf (hconn : conn.ReadsPages s) {name : String}
    (hfound : t.relation? name = .ok r) (hr : r.Served conn s collections)
    (hlinks : r.Askable models) (hw : w.Holds collections) :
    ∃ candidates w', eval (conn.loadTree t (.leaf name) models) w =
        (.ok (models.map (r.attachNew candidates)), w') ∧ w'.Holds collections ∧
      ∀ m ∈ models, m.isLoaded r.name = false → r.LinksPlain m →
        r.pick candidates m = r.pick (conn.catalog.recordsOf collections r) m := by
  have hload : conn.loadForest (conn.catalog.target r) [] = pure := loadForest.eq_1 ..
  obtain ⟨candidates, w', heval, hholds⟩ := eval_loadPending hconn hr hlinks hw
  refine ⟨candidates, w', ?_, hholds⟩
  unfold RelationTree.leaf loadTree
  rw [hfound]
  show eval (do
    let models ← if _ && false then _ else pure models
    conn.loadPending r (conn.loadForest _ []) models) w = _
  rw [Bool.and_false, if_neg Bool.false_ne_true, pure_bind, hload]
  exact heval

/-- Loading a relation for records with plain links attaches what belongs. -/
theorem eval_loadTree (hconn : conn.ReadsPages s) {name : String}
    (hfound : t.relation? name = .ok r) (hr : r.Served conn s collections)
    (hplain : ∀ m ∈ models, r.LinksPlain m) (hfresh : ∀ m ∈ models, m.isLoaded name = false)
    (hw : w.Holds collections) :
    ∃ w', eval (conn.loadTree t (.leaf name) models) w =
        (.ok (models.map fun m => conn.catalog.attach collections t m name), w') ∧
      w'.Holds collections := by
  obtain ⟨candidates, w', heval, hholds, hpick⟩ := eval_loadLeaf hconn hfound hr (.inr hplain) hw
  refine ⟨w', ?_, hholds⟩
  rw [heval]
  refine congrArg (fun loaded => (Except.ok loaded, w')) (List.map_congr_left fun m hm => ?_)
  have hnew : m.isLoaded r.name = false := Schema.name_of_relation? hfound ▸ hfresh m hm
  rw [Relation.attachNew, hnew, if_neg Bool.false_ne_true, hpick m hm hnew (hplain m hm),
    Catalog.attach, hfound]

/-- Loading some relations of different names attaches what belongs through each. -/
theorem eval_loadForest (hconn : conn.ReadsPages s) {names : List String}
    (hnames : names.Nodup)
    (hserved : ∀ name ∈ names, ∃ r, t.relation? name = .ok r ∧ r.Served conn s collections ∧
      ∀ m ∈ models, r.LinksPlain m)
    (hfresh : ∀ name ∈ names, ∀ m ∈ models, m.isLoaded name = false) (hw : w.Holds collections) :
    ∃ w', eval (conn.loadForest t (names.map .leaf) models) w =
        (.ok (models.map (conn.catalog.attachAll collections t names)), w') ∧
      w'.Holds collections := by
  induction names generalizing models w with
  | nil =>
    refine ⟨w, ?_, hw⟩
    rw [List.map_nil, loadForest]
    show (Except.ok models, w) = (Except.ok (models.map fun m => m), w)
    rw [List.map_id']
  | cons name rest ih =>
    obtain ⟨hnew, hrest⟩ := List.nodup_cons.mp hnames
    obtain ⟨r, hfound, hr, hplain⟩ := hserved name List.mem_cons_self
    obtain ⟨w₁, hfirst, hw₁⟩ := eval_loadTree hconn hfound hr hplain
      (hfresh name List.mem_cons_self) hw
    let loaded := models.map fun m => conn.catalog.attach collections t m name
    have hloaded : ∀ m ∈ loaded, ∃ m' ∈ models, m = conn.catalog.attach collections t m' name := by
      intro m hm
      obtain ⟨m', hm', rfl⟩ := List.mem_map.mp hm
      exact ⟨m', hm', rfl⟩
    -- What was attached matters neither for the links of the records nor for other relations.
    have hserved' : ∀ other ∈ rest, ∃ r, t.relation? other = .ok r ∧ r.Served conn s collections ∧
        ∀ m ∈ loaded, r.LinksPlain m := by
      intro other hother
      obtain ⟨r, hfound, hr, hplain⟩ := hserved other (List.mem_cons_of_mem _ hother)
      refine ⟨r, hfound, hr, fun m hm => ?_⟩
      obtain ⟨m', hm', rfl⟩ := hloaded m hm
      unfold Relation.LinksPlain
      rw [Catalog.attributes_attach]
      exact hplain m' hm'
    have hfresh' : ∀ other ∈ rest, ∀ m ∈ loaded, m.isLoaded other = false := by
      intro other hother m hm
      obtain ⟨m', hm', rfl⟩ := hloaded m hm
      have hne : name ≠ other := fun hsame => hnew (hsame ▸ hother)
      exact Catalog.isLoaded_attach hne (hfresh other (List.mem_cons_of_mem _ hother) m' hm')
    obtain ⟨w₂, heval, hw₂⟩ := ih hrest hserved' hfresh' hw₁
    refine ⟨w₂, ?_, hw₂⟩
    rw [List.map_cons, loadForest]
    show eval (conn.loadTree t (.leaf name) models >>= _) w = _
    rw [eval_bind_ok hfirst, heval, List.map_map]
    rfl

end Connection

/-! ## The query without its relations -/

/-- What keys a record by what keys it once it was changed. -/
def Index.after (i : Index) (change : Model → Model) : Index :=
  match i with
  | .field name => .field name
  | .function key => .function (key ∘ change)

namespace Query

variable {g : Catalog} {change : Model → Model} {q : Query}

/-- The query without the relations that it reads by further requests. Its records are keyed as they
are once they were changed. -/
def bare (q : Query) (change : Model → Model) : Query :=
  { q with eager := [], index := q.index.map (·.after change) }

/-- The keys are the same, if the change leaves the attributes alone. -/
theorem key_bare (hchange : ∀ m, (change m).attributes = m.attributes) (q : Query) (m : Model) :
    (q.bare change).index.map (·.key m) = q.index.map (·.key (change m)) := by
  cases hindex : q.index with
  | none => rw [bare, hindex]; rfl
  | some index =>
    have hkey : (index.after change).key m = index.key (change m) := by
      cases index with
      | field name => rw [Index.after, Index.key, Index.key, hchange]
      | function key => rfl
    rw [bare, hindex]
    exact congrArg some hkey

/-- Preparing a query looks at neither. -/
theorem prepare_bare (g : Catalog) (change : Model → Model) (q : Query) :
    (q.bare change).prepare g = (q.prepare g).map (·.bare change) :=
  prepare_of_change (·.bare change) rfl rfl fun _ => rfl

/-- The query without the relations compiles as the query does. -/
theorem describe_bare (g : Catalog) (config : Config) (change : Model → Model) (q : Query) :
    (q.bare change).describe g config [] = q.describe g config [] := by
  rw [describe, describe, prepare_bare]
  cases q.prepare g <;> rfl

/-- The query without the relations reads the same records from rows. -/
theorem modelsOf_bare (g : Catalog) (strict : Bool) (change : Model → Model) (q : Query) :
    (q.bare change).modelsOf g strict = q.modelsOf g strict := by
  funext rows
  have hindex : (q.bare change).index.isNone = q.index.isNone := Option.isNone_map
  have hread : (q.bare change).readRows g strict = q.readRows g strict := by
    funext t rows
    rw [readRows, readRows, hindex]
    rfl
  rw [modelsOf, modelsOf, hread]
  rfl

end Query

/-- Without its relations a query reads what it reads with them. -/
theorem ServedQuery.bare {conn : Connection Store} {s : Store.Settings}
    {collections : KeyMap (List Json)} {q : Query} {t : Schema} {rows : List Json} {size : Nat}
    (h : ServedQuery conn s collections q t rows size) (change : Model → Model) :
    ServedQuery conn s collections (q.bare change) t rows size :=
  { h with
    compiles := by rw [Query.describe_bare]; exact h.compiles
    keyed := fun hfields hindex => h.keyed hfields (Option.map_eq_none_iff.mp hindex) }

namespace Query

variable {q : Query}

/-- What a query attaches to the records of a type. -/
def attached (q : Query) (g : Catalog) (collections : KeyMap (List Json)) (t : Schema) :
    Model → Model := g.attachAll collections t (addNew [] q.eager)

/-- A query for rows of a type that a store serves, of which it reads relations that the store
serves too, by their plain names. The rows hold texts, whole numbers and nulls in the fields of the
links. -/
structure LoadsFrom (conn : Connection Store) (s : Store.Settings)
    (collections : KeyMap (List Json)) (q : Query) (t : Schema) (rows : List Json) (size : Nat) :
    Prop extends ServedQuery conn s collections q t rows size where
  pages : conn.ReadsPages s
  names : ∀ path ∈ q.eager, pieces '.' path = [path]
  relations : ∀ name ∈ q.eager, ∃ r, t.relation? name = .ok r ∧ r.Served conn s collections ∧
    ∀ row ∈ rows, ∀ entry ∈ row.members, ∀ pair ∈ r.link, entry.1 = pair.2 →
      entry.2 = .null ∨ entry.2.isPlain

/-- Whether a query is a page of another, and the other query is that page without its relations. -/
def BareOf (p : Query) (change : Model → Model) (q q' : Query) : Prop :=
  q.IsPageOf p ∧ q' = q.bare change

namespace LoadsFrom

variable {conn : Connection Store} {s : Store.Settings} {collections : KeyMap (List Json)}
  {p : Query} {t : Schema} {rows : List Json} {size : Nat} {w : World Store}

/-- What is left of a row links as the row does. -/
theorem linksPlain_ofFields {r : Relation} {row : Json} (hrow : ∀ entry ∈ row.members,
      ∀ pair ∈ r.link, entry.1 = pair.2 → entry.2 = .null ∨ entry.2.isPlain)
    (wanted : Option String) : r.LinksPlain (Model.ofFields t (Store.project wanted row)) := by
  intro pair hpair own hown
  rw [(Model.ofFields_eq t _).2.1] at hown
  have hmem := KeyMap.mem_of_mem_ofEntries (KeyMap.mem_of_get? hown)
  have hsub : ∀ entry ∈ (Store.project wanted row).members, entry ∈ row.members := by
    intro entry hentry
    unfold Store.project at hentry
    split at hentry
    · exact (List.mem_filter.mp hentry).1
    · exact hentry
  exact hrow _ (hsub _ hmem) pair hpair rfl

/-- The loader of the query attaches to the records of rows what belongs to them. -/
theorem eval_loader (h : q.LoadsFrom conn s collections t rows size) {models : List Model}
    {wanted : Option String}
    (hmodels : ∀ m ∈ models, ∃ row ∈ rows, m = Model.ofFields t (Store.project wanted row))
    (hw : w.Holds collections) :
    ∃ w', eval (conn.loader q models) w =
        (.ok (models.map (q.attached conn.catalog collections t)), w') ∧ w'.Holds collections := by
  obtain ⟨hnodup, hmem⟩ := addNew_spec q.eager List.nodup_nil
  have hserved : ∀ name ∈ addNew [] q.eager, ∃ r, t.relation? name = .ok r ∧
      r.Served conn s collections ∧ ∀ m ∈ models, r.LinksPlain m := by
    intro name hname
    obtain ⟨r, hfound, hr, hplain⟩ :=
      h.relations name (((hmem name).mp hname).resolve_left List.not_mem_nil)
    refine ⟨r, hfound, hr, fun m hm => ?_⟩
    obtain ⟨row, hrow, rfl⟩ := hmodels m hm
    exact linksPlain_ofFields (hplain row hrow) wanted
  have hfresh : ∀ name ∈ addNew [] q.eager, ∀ m ∈ models, m.isLoaded name = false := by
    intro name _ m hm
    obtain ⟨row, -, rfl⟩ := hmodels m hm
    rw [Model.isLoaded, (Model.ofFields_eq t _).2.2]
    rfl
  obtain ⟨w', heval, hholds⟩ := Connection.eval_loadForest h.pages hnodup hserved hfresh hw
  refine ⟨w', ?_, hholds⟩
  rw [Connection.loader, h.schema]
  dsimp only
  rw [RelationTree.ofPaths_plain h.names]
  exact heval

/-- The rows of an answer to a page hold records of what is left of the rows. -/
theorem exists_models (h : q.LoadsFrom conn s collections t rows size)
    (hp : q.prepare conn.catalog = .ok p) {q' : Query} (hpage : q'.IsPageOf p) (request : Request)
    (hget : request.method ≠ .head) :
    ∃ models, q'.modelsOf conn.catalog conn.config.strict
        ((Store.list s rows request).rows conn.config.envelope) = .ok models ∧
      (∀ m ∈ models, ∃ row ∈ rows,
        m = Model.ofFields t (Store.project (request.queryValue? "fields") row)) ∧
      (((Store.list s rows request).rows conn.config.envelope).isEmpty = true → models = []) := by
  have hwhole : ∀ row ∈ (Store.list s rows request).rows conn.config.envelope,
      ∃ whole ∈ rows, row = Store.project (request.queryValue? "fields") whole :=
    fun row hrow =>
      (Store.exists_of_mem_list hget hrow).imp fun _ => And.imp_left Store.mem_of_mem_matching
  have hdeclares := Store.declares_of_mem_list (s := s) h.declares hget conn.config.envelope
  generalize (Store.list s rows request).rows conn.config.envelope = items at hwhole hdeclares ⊢
  have hschema : q'.schema = some t :=
    hpage.reads.1.trans ((reads_of_prepare hp).1.trans h.schema)
  obtain ⟨models, hmodels, hrows, -⟩ := modelsOf_of_declares conn.catalog conn.config.strict hschema
    hdeclares (h.keyed_page hp hpage)
  refine ⟨models, hmodels, fun m hm => ?_, fun hempty => ?_⟩
  · obtain ⟨row, hrow, rfl⟩ := hrows m hm
    obtain ⟨whole, hmem, rfl⟩ := hwhole row hrow
    exact ⟨whole, hmem, rfl⟩
  · rw [modelsOf, if_pos hempty] at hmodels
    exact (Except.ok.inj hmodels).symm

/-- Every page is read alike with the relations and without, but for what is attached. -/
theorem pagesAlike (h : q.LoadsFrom conn s collections t rows size)
    (hp : q.prepare conn.catalog = .ok p) :
    PagesAlike conn (World.Holds collections) True
      (p.BareOf (q.attached conn.catalog collections t))
      (fun m m' => m = q.attached conn.catalog collections t m') (conn.loader q) pure where
  queries := by
    refine ⟨?_, ?_, ?_⟩
    · rintro a b ⟨hpage, rfl⟩ size offset
      exact ⟨hpage.withWindow size offset, rfl⟩
    · rintro a b ⟨-, rfl⟩
      rfl
    · rintro a b ⟨-, rfl⟩ m m' rfl
      exact (key_bare (Catalog.attributes_attachAll _) a m').symm
  keeps := Cursor.keeps_readPage h.answer (conn.loader_holds h.answer q)
  keeps' := Cursor.keeps_readPage h.answer Loader.steady_pure
  read := by
    rintro c c' ⟨hpage, hc'⟩ w w' hw hw'
    have hdescribe : c'.query.describe conn.catalog conn.config [] =
        c.query.describe conn.catalog conn.config [] := by rw [hc', describe_bare]
    cases hd : c.query.describe conn.catalog conn.config [] with
    | error e =>
      obtain ⟨w₁, -, hread⟩ := hw.outcome_readPage h.answer (conn.loader q) c
      obtain ⟨w₁', -, hread'⟩ := hw'.outcome_readPage h.answer pure c'
      rw [hread, hread', hdescribe, hd]
      exact fun _ => rfl
    | ok d =>
      have hserved : KeyMap.get? collections (Store.collectionPath d.uri) = some rows := by
        rw [(hpage.of_describe hp hd).1]
        exact h.served
      obtain ⟨w₁, hw₁, hread⟩ := hw.outcome_readPage_list h.answer (conn.loader q) hd hserved
      obtain ⟨w₁', -, hread'⟩ :=
        hw'.outcome_readPage_list h.answer pure (hdescribe.trans hd) hserved
      have hmodels := h.exists_models hp hpage (d.request .get) nofun
      rw [hread, hread', hc']
      generalize (Store.list s rows (d.request .get)).rows conn.config.envelope = items at hmodels ⊢
      obtain ⟨models, hmodels, hrows, hnone⟩ := hmodels
      -- Both read the same records from the rows; the relations are attached behind that.
      have hloaded : (eval (Cursor.materialize conn (conn.loader q) c.query items) w₁).1 =
          .ok (models.map (q.attached conn.catalog collections t)) := by
        rw [Cursor.eval_materialize_eq, hmodels]
        dsimp only
        split
        · rename_i hempty
          rw [hnone hempty]
          rfl
        · obtain ⟨w₂, heval, -⟩ := h.eval_loader hrows hw₁
          rw [heval]
      rw [hloaded, Cursor.eval_materialize_pure, modelsOf_bare, hmodels]
      refine ⟨rfl, ?_⟩
      rw [List.forall₂_map_left_iff, List.forall₂_same]
      exact fun _ _ => rfl

end LoadsFrom

end Query

namespace Connection

variable {conn : Connection Store} {s : Store.Settings} {collections : KeyMap (List Json)}
  {q : Query} {t : Schema} {rows : List Json} {size : Nat} {w : World Store}

/-- A query that reads relations gives the records that it gives without them, under the same keys
and with what belongs to each attached through every relation: of the rows of the target's
collection, in order, those whose texts in the fields of the link are those of the record. -/
theorem all_populates (h : q.LoadsFrom conn s collections t rows size) (hw : w.Holds collections) :
    ∃ records bare, (eval (conn.all q) w).1 = .ok records ∧
      (eval (conn.all (q.bare (q.attached conn.catalog collections t))) w).1 = .ok bare ∧
      records.entries =
        bare.entries.map (fun (key, m) => (key, q.attached conn.catalog collections t m)) ∧
      (∀ m, (q.attached conn.catalog collections t m).attributes = m.attributes) ∧
      ∀ name ∈ q.eager, ∃ r, t.relation? name = .ok r ∧
        ∀ m ∈ records.models, r.Populated (conn.catalog.recordsOf collections r) m := by
  let change := q.attached conn.catalog collections t
  obtain ⟨d, hd⟩ := h.compiles
  obtain ⟨p, hp, -⟩ := bind_eq_ok_iff.mp hd
  have hp' : (q.bare change).prepare conn.catalog = .ok (p.bare change) := by
    rw [Query.prepare_bare, hp]
    rfl
  have hbare : conn.all (q.bare change) = conn.allWith pure (q.bare change) := by
    rw [all, conn.loader_eq_pure rfl]
  obtain ⟨bare, hreturns⟩ := (h.toServedQuery.bare change).allWith_returns hw
  have halike : OutcomesAlike True _ (eval (conn.all q) w).1
      (eval (conn.allWith pure (q.bare change)) w).1 :=
    (h.pagesAlike hp).allWith hp hp' ⟨.inl rfl, rfl⟩ rfl rfl hw hw
  rw [hreturns] at halike
  generalize (eval (conn.all q) w).1 = outcome at halike ⊢
  rcases outcome with e | records
  · exact absurd trivial halike
  have hentries : records.entries = bare.entries.map fun (key, m) => (key, change m) := by
    rw [← List.forall₂_eq_eq_eq, List.forall₂_map_right_iff]
    exact List.Forall₂.imp (fun entry entry' hentry => Prod.ext hentry.1 hentry.2) halike
  refine ⟨records, bare, rfl, hbare.symm ▸ hreturns, hentries, Catalog.attributes_attachAll _, ?_⟩
  intro name hname
  obtain ⟨r, hfound, -⟩ := h.relations name hname
  refine ⟨r, hfound, fun m hm => Relation.populated_of_pick ?_⟩
  -- The record is one of those without the relations, with all that belongs to it.
  rw [RecordSet.models, hentries, List.map_map] at hm
  obtain ⟨entry, -, rfl⟩ := List.mem_map.mp hm
  have hmem : name ∈ Query.addNew [] q.eager :=
    ((Query.addNew_spec q.eager List.nodup_nil).2 name).mpr (.inr hname)
  rw [Schema.name_of_relation? hfound]
  show (change entry.2).related? name = some (r.pick _ (change entry.2))
  have hsame : r.pick (conn.catalog.recordsOf collections r) (change entry.2) =
      r.pick (conn.catalog.recordsOf collections r) entry.2 :=
    Catalog.pick_congr r _ (Catalog.attributes_attachAll _ entry.2)
  rw [hsame]
  exact Catalog.related?_attachAll hfound (.inl hmem)

end Connection

/-- Artists, with all their albums and the one of the year of their debut. -/
def artist : Schema where
  typeName := "Artist"
  fields := ["id", "debut"]
  relations :=
    [{ name := "albums", target := "Album", multiple := true, link := [("artist_id", "id")] },
      { name := "first", target := "Album", multiple := false
        link := [("artist_id", "id"), ("year", "debut")] }]

/-- Albums, which know their artist. -/
def album : Schema where
  typeName := "Album"
  fields := ["id", "artist_id", "year"]

/-- Two artists, of whom one has no debut, with their albums; the artists are known by numbers and
by texts. -/
theorem Connection.all_populates_artists :
    let conn : Connection Store :=
      { catalog := [artist, album], config := {}, auth := .none, answer := Store.send {}
        pageBudget := 3 }
    let q : Query := (Query.of artist).withRelations ["albums", "first"]
    let rows : List Json :=
      [.object [("debut", .nat 1990), ("id", .nat 1)], .object [("debut", .null), ("id", .nat 2)]]
    let albums : List Json :=
      [.object [("artist_id", .text "1"), ("id", .nat 5), ("year", .nat 1991)],
        .object [("artist_id", .nat 2), ("id", .nat 6)],
        .object [("artist_id", .nat 1), ("id", .nat 7), ("year", .text "1990")]]
    let w : World Store :=
      { backend := (Store.serve {} "artists" rows).serve "albums" albums }
    let collections := w.backend.collections
    (q.LoadsFrom conn {} collections artist rows 20 ∧ w.Holds collections) ∧
      ∃ records bare, (eval (conn.all q) w).1 = .ok records ∧
        (eval (conn.all (q.bare (q.attached conn.catalog collections artist))) w).1 = .ok bare ∧
        records.entries = bare.entries.map
          (fun (key, m) => (key, q.attached conn.catalog collections artist m)) ∧
        (∀ m, (q.attached conn.catalog collections artist m).attributes = m.attributes) ∧
        ∀ name ∈ q.eager, ∃ r, artist.relation? name = .ok r ∧
          ∀ m ∈ records.models, r.Populated (conn.catalog.recordsOf collections r) m := by
  intro conn q rows albums w collections
  have hserved : ∀ r ∈ artist.relations, r.Served conn {} collections := by
    have hrows : ∀ r ∈ artist.relations, conn.catalog.targetRows collections r = albums := by
      decide +kernel
    have htarget : ∀ r ∈ artist.relations, conn.catalog.target r = album := by decide +kernel
    have hunbroken : ∀ r ∈ artist.relations, ∀ pair ∈ r.link, Unbroken pair.1 := by decide +kernel
    have hpath : KeyMap.get? collections (Store.collectionPath (trim album.resourcePath)) =
        some albums := by decide +kernel
    intro r hr
    have hr' := hrows r hr
    refine ⟨hunbroken r hr, ?_, ?_, ?_, ?_, ?_⟩
    · rw [hr', htarget r hr]
      exact hpath
    · rw [hr', htarget r hr]
      simp only [albums, List.forall_mem_cons]
      exact ⟨⟨_, rfl, by decide⟩, ⟨_, rfl, by decide⟩, ⟨_, rfl, by decide⟩, nofun⟩
    · rw [hr']
      decide
    · rw [hr']
      decide
    · rw [hr']
      decide
  have hfound : ∀ name ∈ q.eager, ∃ r ∈ artist.relations, artist.relation? name = .ok r := by
    decide +kernel
  have hplain : ∀ r ∈ artist.relations, ∀ row ∈ rows, ∀ entry ∈ row.members, ∀ pair ∈ r.link,
      entry.1 = pair.2 → entry.2 = .null ∨ entry.2.isPlain := by decide +kernel
  have hload : q.LoadsFrom conn {} collections artist rows 20 :=
    { answer := rfl, pageHeaders := rfl, distinct := by decide +kernel
      schema := rfl, served := by decide +kernel
      declares := by
        simp only [rows, List.forall_mem_cons]
        exact ⟨⟨_, rfl, by decide⟩, ⟨_, rfl, by decide⟩, nofun⟩
      compiles := ⟨_, rfl⟩, keyed := nofun
      size_eq := rfl, size_pos := by decide, size_le := by decide, size_le_store := by decide
      maxPerPage_le := by decide, length_le := by decide, end_le := by decide
      budget := by decide
      pages :=
        { answer := rfl, pageHeaders := rfl, distinct := by decide +kernel, size_pos := by decide
          size_le := by decide, size_le_store := by decide, maxPerPage_le := by decide }
      names := by decide +kernel
      relations := fun name hname => by
        obtain ⟨r, hr, hfound⟩ := hfound name hname
        exact ⟨r, hfound, hserved r hr, hplain r hr⟩ }
  have hw : w.Holds collections := ⟨⟨rfl, rfl⟩, rfl, rfl⟩
  exact ⟨⟨hload, hw⟩, Connection.all_populates hload hw⟩

end RestQuery
