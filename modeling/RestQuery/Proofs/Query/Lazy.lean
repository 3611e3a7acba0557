import RestQuery.Model.Persist
import RestQuery.Proofs.Query.Related

/-!
# Related records that are read for one record

The records that belong to a record through a relation can be read in two ways. A query that loads
the relation reads them for all of its records, and attaches to each those that it picks. A query
for the related records of one record compares the field of the target with the value that the
record has in its own field. For a link of one field both are filters of the target's records
(`Relation.records_pick`, `Connection.eval_relatedQuery`).

The second one finds every record that belongs. But `null` is sent as the empty text, as is a value
that the record lacks, and that is also the text of a field that a row lacks: the query may find
records that do not belong. `Connection.lazy_agrees_with_eager` says when it does not.
-/

namespace RestQuery

open Session Text

/-- The text of an attribute of a record, as a store compares it: a record that lacks it has the
empty text. -/
def Model.textOf (m : Model) (field : String) : String :=
  ((KeyMap.get? m.attributes field).map Json.keyText).getD ""

/-- The text that an attribute of a record is sent as: `null` and a value that the record lacks are
sent as the empty text. -/
def Model.sentText (m : Model) (field : String) : String :=
  Wire.leafText ((KeyMap.get? m.attributes field).getD .null)

/-- The attributes of a record have the texts of the row that it was read of. -/
theorem Model.textOf_ofFields (t : Schema) {row : Json}
    (hdistinct : (row.members.map Prod.fst).Nodup) (field : String) :
    (ofFields t row).textOf field = row.textAt field := by
  rw [textOf, (ofFields_eq t row).2.1, KeyMap.get?_ofEntries hdistinct, Json.textAt,
    Json.member?_eq]

/-- Where the text is not empty, there is a value. -/
theorem Model.exists_of_textOf_ne {m : Model} {field : String} (h : m.textOf field ≠ "") :
    ∃ value, KeyMap.get? m.attributes field = some value := by
  unfold textOf at h
  cases hvalue : KeyMap.get? m.attributes field with
  | none =>
    rw [hvalue] at h
    exact absurd rfl h
  | some value => exact ⟨value, rfl⟩

/-- Where the text that is sent is not empty, there is a value that is not null. -/
theorem Model.exists_of_sentText_ne {m : Model} {field : String} (h : m.sentText field ≠ "") :
    ∃ value, KeyMap.get? m.attributes field = some value ∧ value ≠ .null := by
  unfold sentText at h
  cases hvalue : KeyMap.get? m.attributes field with
  | none =>
    rw [hvalue] at h
    exact absurd rfl h
  | some value =>
    refine ⟨value, rfl, ?_⟩
    rintro rfl
    rw [hvalue] at h
    exact absurd rfl h

namespace Relation

variable {r : Relation} {m target : Model} {targets : List Model} {targetField localField : String}

/-- What a relation attaches: all of some records if there may be any number, else the first. -/
def upTo (r : Relation) (models : List Model) : List Model :=
  if r.multiple then models else models.take 1

/-- The records that are picked are what belongs. -/
theorem records_pick (r : Relation) (targets : List Model) (m : Model) :
    (r.pick targets m).records = r.upTo (targets.filter fun target => r.Belongs m target) := by
  have hfound : targets.filter (r.links m) = targets.filter fun target => r.Belongs m target := by
    refine List.filter_congr fun target _ => ?_
    rw [Bool.eq_iff_iff, links_iff, decide_eq_true_iff]
  unfold pick upTo
  dsimp only
  rw [hfound]
  split
  · rfl
  · cases targets.filter fun target => r.Belongs m target <;> rfl

/-- What is sent for a record has no parts. -/
theorem isLeaf_of_linksPlain (hplain : r.LinksPlain m) (hmem : (targetField, localField) ∈ r.link) :
    ((KeyMap.get? m.attributes localField).getD .null).isLeaf := by
  cases hown : KeyMap.get? m.attributes localField with
  | none => rfl
  | some own =>
    rcases hplain _ hmem own hown with rfl | hvalue
    · rfl
    · exact Json.isLeaf_of_isPlain hvalue

/-- A record that belongs has the text that is sent. -/
theorem textOf_of_belongs (hlink : r.link = [(targetField, localField)]) (hplain : r.LinksPlain m)
    (h : r.Belongs m target) : target.textOf targetField = m.sentText localField := by
  have hmem : (targetField, localField) ∈ r.link := hlink ▸ List.mem_singleton_self _
  obtain ⟨value, own, hvalue, ⟨hown, hne⟩, htext⟩ := h.2 _ hmem
  have hown' := (hplain _ hmem own hown).resolve_left hne
  rw [Model.textOf, Model.sentText, hvalue, hown]
  exact htext.trans (Wire.leafText_of_isPlain hown').symm

/-- A record with the text that is sent belongs if it has the field and the value is not null. -/
theorem belongs_iff_of_textOf (hlink : r.link = [(targetField, localField)])
    (hplain : r.LinksPlain m) (h : target.textOf targetField = m.sentText localField) :
    r.Belongs m target ↔ (∃ own, KeyMap.get? m.attributes localField = some own ∧ own ≠ .null) ∧
      ∃ value, KeyMap.get? target.attributes targetField = some value := by
  have hmem : (targetField, localField) ∈ r.link := hlink ▸ List.mem_singleton_self _
  constructor
  · intro hbelongs
    obtain ⟨value, own, hvalue, hown, -⟩ := hbelongs.2 _ hmem
    exact ⟨⟨own, hown⟩, value, hvalue⟩
  · rintro ⟨⟨own, hown, hne⟩, value, hvalue⟩
    have hown' := (hplain _ hmem own hown).resolve_left hne
    rw [Model.textOf, Model.sentText, hvalue, hown] at h
    refine ⟨hlink ▸ List.cons_ne_nil _ _, fun pair hpair => ?_⟩
    rw [hlink, List.mem_singleton] at hpair
    exact hpair ▸ ⟨value, own, hvalue, ⟨hown, hne⟩, h.trans (Wire.leafText_of_isPlain hown')⟩

/-- What belongs is among the records that have the text which is sent. -/
theorem filter_belongs (hlink : r.link = [(targetField, localField)]) (hplain : r.LinksPlain m)
    (targets : List Model) :
    (targets.filter fun target => target.textOf targetField == m.sentText localField).filter
      (fun target => r.Belongs m target) = targets.filter fun target => r.Belongs m target := by
  rw [List.filter_filter]
  refine List.filter_congr fun target _ => ?_
  rw [Bool.and_eq_left_iff_imp, decide_eq_true_iff, beq_iff_eq]
  exact textOf_of_belongs hlink hplain

theorem mem_of_mem_upTo {models : List Model} (h : m ∈ r.upTo models) : m ∈ models := by
  unfold upTo at h
  split at h
  · exact h
  · exact List.mem_of_mem_take h

/-- A filter changes nothing of what a relation attaches exactly if all of that passes. -/
theorem upTo_filter_iff (r : Relation) (models : List Model) (p : Model → Bool) :
    r.upTo (models.filter p) = r.upTo models ↔ ∀ m ∈ r.upTo models, p m := by
  constructor
  · intro h m hm
    rw [← h] at hm
    exact (List.mem_filter.mp (mem_of_mem_upTo hm)).2
  · intro h
    unfold upTo at h ⊢
    split
    · rename_i hmany
      rw [if_pos hmany] at h
      exact List.filter_eq_self.mpr h
    · rename_i hsingle
      rw [if_neg hsingle] at h
      cases models with
      | nil => rfl
      | cons first rest =>
        rw [List.filter_cons_of_pos (h first List.mem_cons_self)]
        rfl

/-- Of records that have the text which is sent, all that the relation attaches belong exactly if
there is something to compare on both sides. -/
theorem upTo_belongs_iff (hlink : r.link = [(targetField, localField)]) (hplain : r.LinksPlain m)
    (h : ∀ target ∈ targets, target.textOf targetField = m.sentText localField) :
    r.upTo (targets.filter fun target => r.Belongs m target) = r.upTo targets ↔
      ∀ target ∈ r.upTo targets,
        (∃ own, KeyMap.get? m.attributes localField = some own ∧ own ≠ .null) ∧
          ∃ value, KeyMap.get? target.attributes targetField = some value := by
  rw [upTo_filter_iff]
  refine forall₂_congr fun target htarget => decide_eq_true_iff.trans ?_
  exact belongs_iff_of_textOf hlink hplain (h target (mem_of_mem_upTo htarget))

end Relation

namespace Connection

variable {conn : Connection Store} {s : Store.Settings} {collections : KeyMap (List Json)}
  {q : Query} {t : Schema} {r : Relation} {name targetField localField : String}
  {models : List Model} {m : Model} {i : Nat} {w w' : World Store}

/-- The query for the related records of a record finds those that have the text which the value of
the record is sent as. -/
theorem eval_relatedQuery (hconn : conn.ReadsPages s) (hr : r.Served conn s collections)
    (hfound : m.schema.relation? name = .ok r) (hlink : r.link = [(targetField, localField)])
    (hplain : r.LinksPlain m) (hw : w.Holds collections) :
    ∃ related, m.relatedQuery conn.catalog name = .ok related ∧
      (eval (conn.all related) w).1 = .ok (.numbered ((conn.catalog.recordsOf collections r).filter
        fun target => target.textOf targetField == m.sentText localField)) := by
  have hmem : (targetField, localField) ∈ r.link := hlink ▸ List.mem_singleton_self _
  have hleaf := Relation.isLeaf_of_linksPlain hplain hmem
  have hrelated : m.relatedQuery conn.catalog name =
      .ok ((Query.of (conn.catalog.target r)).filter
        (.equals targetField ((KeyMap.get? m.attributes localField).getD .null))) := by
    rw [Model.relatedQuery, hfound]
    show Except.ok (r.link.foldl _ _) = _
    rw [hlink]
    rfl
  refine ⟨_, hrelated, ?_⟩
  unfold Model.sentText
  generalize (KeyMap.get? m.attributes localField).getD .null = own at hleaf ⊢
  have hpairs : ∀ pair ∈ [(targetField, own)], Unbroken pair.1 ∧ (resolve [] pair.2).isLeaf :=
    List.forall_mem_singleton.mpr ⟨hr.unbroken _ hmem, (resolve_nil own).symm ▸ hleaf⟩
  obtain ⟨filter, hcompile⟩ :=
    Filter.exists_fields_of_isLeaf fun pair hpair => (hpairs pair hpair).2
  have hc : (Condition.equals targetField own).compile [] = .ok filter := hcompile
  obtain ⟨w₁, heval, -⟩ := eval_targets hconn hr hw hc
  rw [all, conn.loader_eq_pure rfl, heval, Catalog.recordsOf, List.filter_map]
  refine congrArg (fun rows => Except.ok (RecordSet.numbered
    (rows.map (Model.ofFields (conn.catalog.target r))))) (List.filter_congr fun row hrow => ?_)
  rw [Store.meetsAll_leaves hcompile (List.pairwise_singleton _ _) hpairs, Function.comp_apply,
    Model.textOf_ofFields _ (hr.once row hrow), List.all_cons, List.all_nil, Bool.and_true]
  dsimp only
  rw [resolve_nil]

/-- A query that loads one relation attaches to a record of its page what belongs to it, whatever
the other records of the page are linked by. -/
theorem eval_loader_single (hconn : conn.ReadsPages s) (hr : r.Served conn s collections)
    (hfound : m.schema.relation? name = .ok r) (hone : ∃ pair, r.link = [pair])
    (hplain : r.LinksPlain m) (hschema : q.schema = some m.schema) (heager : q.eager = [name])
    (hpath : pieces '.' name = [name]) (hm : models[i]? = some m) (hfresh : m.isLoaded name = false)
    (hw : w.Holds collections) :
    ∃ loaded, (eval (conn.loader q models) w).1 = .ok loaded ∧
      loaded[i]? =
        some (m.attach r.name (r.pick (conn.catalog.recordsOf collections r) m)) := by
  have hlinks : r.Askable models := .inl hone
  obtain ⟨candidates, w', heval, -, hpick⟩ := eval_loadLeaf hconn hfound hr hlinks hw
  have hnew : m.isLoaded r.name = false := Schema.name_of_relation? hfound ▸ hfresh
  have hforest : RelationTree.ofPaths [name] = [.leaf name] :=
    RelationTree.ofPaths_plain (List.forall_mem_singleton.mpr hpath)
  refine ⟨models.map (r.attachNew candidates), ?_, ?_⟩
  · rw [loader, hschema]
    dsimp only
    rw [heager, hforest, loadForest]
    show (eval (conn.loadTree m.schema (.leaf name) models >>= conn.loadForest m.schema []) w).1 = _
    rw [eval_bind_ok heval, loadForest]
    rfl
  · rw [List.getElem?_map, hm, Option.map_some, Relation.attachNew, hnew,
      if_neg Bool.false_ne_true, hpick m (List.mem_of_getElem? hm) hnew hplain]

/-- What is attached to a record by a query that loads the relation is, of the records that the
query for its related records finds, those that belong to it, or the first of these. It is all that
is found, or the first of that, exactly if the record has a value that is not null and what is found
has the field that was asked for. That is so if the text that was sent is not empty. -/
theorem lazy_agrees_with_eager (hconn : conn.ReadsPages s) (hr : r.Served conn s collections)
    (hfound : m.schema.relation? name = .ok r) (hlink : r.link = [(targetField, localField)])
    (hplain : r.LinksPlain m) (hschema : q.schema = some m.schema) (heager : q.eager = [name])
    (hpath : pieces '.' name = [name]) (hm : models[i]? = some m) (hfresh : m.isLoaded name = false)
    (hw : w.Holds collections) (hw' : w'.Holds collections) :
    ∃ related found loaded attached, m.relatedQuery conn.catalog name = .ok related ∧
      (eval (conn.all related) w).1 = .ok found ∧
      (eval (conn.loader q models) w').1 = .ok loaded ∧
      loaded[i]? = some (m.attach r.name attached) ∧
      found.models = ((conn.catalog.recordsOf collections r).filter fun target =>
        target.textOf targetField == m.sentText localField) ∧
      attached.records = r.upTo (found.models.filter fun target => r.Belongs m target) ∧
      (attached.records = r.upTo found.models ↔ ∀ target ∈ r.upTo found.models,
        (∃ own, KeyMap.get? m.attributes localField = some own ∧ own ≠ .null) ∧
          ∃ value, KeyMap.get? target.attributes targetField = some value) ∧
      (m.sentText localField ≠ "" → attached.records = r.upTo found.models) := by
  obtain ⟨related, hrelated, hlazy⟩ := eval_relatedQuery hconn hr hfound hlink hplain hw
  obtain ⟨loaded, hloaded, hattached⟩ := eval_loader_single hconn hr hfound ⟨_, hlink⟩ hplain
    hschema heager hpath hm hfresh hw'
  have hrecords := r.records_pick (conn.catalog.recordsOf collections r) m
  rw [← Relation.filter_belongs hlink hplain] at hrecords
  have hsent : ∀ target ∈ (conn.catalog.recordsOf collections r).filter fun target =>
      target.textOf targetField == m.sentText localField,
      target.textOf targetField = m.sentText localField :=
    fun target htarget => beq_iff_eq.mp (List.mem_filter.mp htarget).2
  have hiff := Relation.upTo_belongs_iff hlink hplain hsent
  refine ⟨related, _, loaded, _, hrelated, hlazy, hloaded, hattached, ?_⟩
  rw [RecordSet.models_numbered, hrecords]
  refine ⟨rfl, rfl, hiff, fun hne => hiff.mpr fun target htarget => ?_⟩
  -- The text that was sent is that of a value, and so is the same text of what is found.
  have htext := hsent target (Relation.mem_of_mem_upTo htarget)
  exact ⟨Model.exists_of_sentText_ne hne, Model.exists_of_textOf_ne (htext ▸ hne)⟩

/-- Of two tasks one has the owner with a code, and one has no owner. The query for the owner of the
second finds the owner whose code is empty, who is attached to neither. -/
theorem lazy_agrees_with_eager_tasks :
    let owner : Relation :=
      { name := "owner", target := "Owner", multiple := false, link := [("code", "owner_id")] }
    let task : Schema :=
      { typeName := "Task", fields := ["id", "owner_id"], relations := [owner] }
    let conn : Connection Store :=
      { catalog := [task, { typeName := "Owner", fields := ["id", "code"] }], config := {}
        auth := .none, answer := Store.send {}, pageBudget := 2 }
    let owners : List Json :=
      [.object [("code", .text ""), ("id", .nat 1)], .object [("code", .text "a"), ("id", .nat 2)]]
    let w : World Store := { backend := Store.serve {} "owners" owners }
    let collections := w.backend.collections
    let q := (Query.of task).withRelations ["owner"]
    let owned := Model.ofFields task (.object [("id", .nat 1), ("owner_id", .text "a")])
    let free := Model.ofFields task (.object [("id", .nat 2), ("owner_id", .null)])
    (conn.ReadsPages {} ∧ owner.Served conn {} collections ∧ w.Holds collections ∧
      pieces '.' "owner" = ["owner"] ∧ q.eager = ["owner"] ∧
      ∀ m ∈ [owned, free], q.schema = some m.schema ∧ m.schema.relation? "owner" = .ok owner ∧
        owner.LinksPlain m ∧ m.isLoaded "owner" = false) ∧
    (∃ related found loaded attached, owned.relatedQuery conn.catalog "owner" = .ok related ∧
      (eval (conn.all related) w).1 = .ok found ∧
      (eval (conn.loader q [owned, free]) w).1 = .ok loaded ∧
      loaded[0]? = some (owned.attach "owner" attached) ∧
      attached.records = found.models.take 1 ∧ attached.records ≠ []) ∧
    ∃ related found loaded attached, free.relatedQuery conn.catalog "owner" = .ok related ∧
      (eval (conn.all related) w).1 = .ok found ∧
      (eval (conn.loader q [owned, free]) w).1 = .ok loaded ∧
      loaded[1]? = some (free.attach "owner" attached) ∧
      attached.records = [] ∧ found.models ≠ [] := by
  intro owner task conn owners w collections q owned free
  have hpages : conn.ReadsPages {} :=
    { answer := rfl, pageHeaders := rfl, distinct := by decide +kernel, size_pos := by decide
      size_le := by decide, size_le_store := by decide, maxPerPage_le := by decide }
  have hrows : conn.catalog.targetRows collections owner = owners := by decide +kernel
  have hserved : owner.Served conn {} collections := by
    refine ⟨by decide +kernel, by decide +kernel, ?_, ?_, ?_, ?_⟩
    all_goals rw [hrows]
    · simp only [owners, List.forall_mem_cons]
      exact ⟨⟨_, rfl, by decide⟩, ⟨_, rfl, by decide⟩, nofun⟩
    · decide
    · decide
    · decide
  have hw : w.Holds collections := ⟨⟨rfl, rfl⟩, rfl, rfl⟩
  have hpath : pieces '.' "owner" = ["owner"] := by decide +kernel
  have heager : q.eager = ["owner"] := rfl
  have howned : q.schema = some owned.schema ∧ owned.schema.relation? "owner" = .ok owner ∧
      owner.LinksPlain owned ∧ owned.isLoaded "owner" = false := by
    refine ⟨rfl, by decide +kernel, List.forall_mem_singleton.mpr fun own hown => .inr ?_, rfl⟩
    cases hown
    rfl
  have hfree : q.schema = some free.schema ∧ free.schema.relation? "owner" = .ok owner ∧
      owner.LinksPlain free ∧ free.isLoaded "owner" = false := by
    refine ⟨rfl, by decide +kernel, List.forall_mem_singleton.mpr fun own hown => .inl ?_, rfl⟩
    cases hown
    rfl
  refine ⟨⟨hpages, hserved, hw, hpath, heager, ?_⟩, ?_, ?_⟩
  · exact List.forall_mem_cons.mpr ⟨howned, List.forall_mem_singleton.mpr hfree⟩
  · obtain ⟨hschema, hrelation, hplain, hfresh⟩ := howned
    have hm : [owned, free][0]? = some owned := rfl
    obtain ⟨related, found, loaded, attached, hrelated, hlazy, hloaded, hattached, hfound, -, -,
      hsame⟩ := lazy_agrees_with_eager hpages hserved hrelation rfl hplain hschema heager hpath hm
        hfresh hw hw
    have hrecords := hsame (by decide +kernel)
    refine ⟨related, found, loaded, attached, hrelated, hlazy, hloaded, hattached, hrecords, ?_⟩
    rw [hrecords, hfound]
    decide +kernel
  · obtain ⟨hschema, hrelation, hplain, hfresh⟩ := hfree
    have hm : [owned, free][1]? = some free := rfl
    obtain ⟨related, found, loaded, attached, hrelated, hlazy, hloaded, hattached, hfound, hpart,
      -⟩ := lazy_agrees_with_eager hpages hserved hrelation rfl hplain hschema heager hpath hm
        hfresh hw hw
    refine ⟨related, found, loaded, attached, hrelated, hlazy, hloaded, hattached, ?_, ?_⟩
    · rw [hpart, hfound]
      decide +kernel
    · rw [hfound]
      decide +kernel

end Connection

end RestQuery
