import RestQuery.Proofs.Model.Rows

/-!
# Records that are read back from their JSON

A row may hold what it holds in more than one way: a single record where a list is expected, a list
where a single record is, and keys that are skipped. What is read of it is put down in one way, and
that way is read as the same record again (`Model.ReadsBack`), in strict mode as well.

A record in the making keeps to that: its attributes are declared fields, and what is attached to it
stands under the name of a relation and is read back from its JSON (`Model.Restorable`). Such a
record is restored from its members, whatever their order (`Model.Restorable.readsBack`), and every
member of a row leads from one such record to another, so that all records of a row, however deep,
are read back (`Model.ofRow?_toJson`).
-/

namespace RestQuery

/-- A map is the map of its entries. -/
theorem KeyMap.ofEntries_of_ordered {α : Type} {m : KeyMap α} (h : Ordered m) : ofEntries m = m :=
  ext (ordered_ofEntries m) h (get?_ofEntries h.nodup)

/-- Entries may be left out by their keys before a map is put over another. -/
theorem KeyMap.filter_overlay {α : Type} {m n : KeyMap α} (hm : Ordered m) (hn : Ordered n)
    (p : String → Bool) :
    (overlay m n).filter (fun entry => p entry.1) =
      overlay (m.filter fun entry => p entry.1) (n.filter fun entry => p entry.1) := by
  have hfilter : ∀ {l : KeyMap α}, Ordered l → Ordered (l.filter fun entry => p entry.1) :=
    fun hl => hl.sublist (List.filter_sublist.map _)
  refine ext (hfilter (hm.overlay n)) ((hfilter hm).overlay _) fun key => ?_
  rw [get?_filter_key, get?_overlay hn.nodup, get?_overlay (hfilter hn).nodup, get?_filter_key,
    get?_filter_key]
  split <;> rfl

/-- The JSON of what is attached to a record. -/
def Related.json : Related Model → Json
  | .one m => m.toJson
  | .many ms => .list (Model.listJson ms)
  | .nothing => .null

/-- The records of a relation stand in a row under the name of the relation. -/
def Schema.NamesPayloads (s : Schema) : Prop := ∀ r ∈ s.relations, r.responseKey = r.name

/-- A relation that is found under a key has the key as its name. -/
theorem Schema.NamesPayloads.name_eq {s : Schema} (h : s.NamesPayloads) {key : String}
    {r : Relation} (hr : s.relationForKey? key = some r) : r.name = key := by
  have hkey : (r.responseKey == key) = true :=
    List.find?_some (p := fun r : Relation => r.responseKey == key) hr
  rw [← h r (List.mem_of_find?_eq_some hr)]
  exact beq_iff_eq.mp hkey

/-- The types of a catalog put the records of a relation under its name. -/
def Catalog.NamesPayloads (g : Catalog) : Prop := ∀ t ∈ g, t.NamesPayloads

theorem Catalog.NamesPayloads.target {g : Catalog} (h : g.NamesPayloads) (r : Relation) :
    (g.target r).NamesPayloads := by
  unfold Catalog.target
  cases hfound : g.find? r.target with
  | none => exact fun _ hr => absurd hr (List.not_mem_nil)
  | some t => exact h t (List.mem_of_find?_eq_some hfound)

/-- Whether a record is read back from its JSON, strictly or not. -/
def Model.ReadsBack (g : Catalog) (s : Schema) (m : Model) : Prop :=
  ∀ strict, Model.ofRow? g strict s m.toJson = .ok m

/-- Whether what is attached to a record is read back from its JSON, strictly or not. -/
def Related.ReadsBack (g : Catalog) (s : Schema) (multiple : Bool) (r : Related Model) : Prop :=
  ∀ strict, Model.ofPayload? g strict s multiple r.json = .ok r

namespace Related.ReadsBack

variable {g : Catalog} {s : Schema}

theorem nothing (multiple : Bool) : (nothing : Related Model).ReadsBack g s multiple := by
  intro strict
  rw [json, Model.ofPayload?]

theorem one {m : Model} (h : m.ReadsBack g s) : (one m).ReadsBack g s false := by
  intro strict
  have hread := h strict
  obtain ⟨members, hmembers⟩ : ∃ members, m.toJson = .object members := by
    obtain ⟨s, attributes, snapshot, related⟩ := m
    exact ⟨_, by rw [Model.toJson]⟩
  rw [hmembers, Model.ofRow?] at hread
  obtain ⟨read, hok, hsettle⟩ := map_eq_ok_iff.mp hread
  rw [json, hmembers, Model.ofPayload?, hok, ← hsettle]
  rfl

theorem many {ms : List Model} (h : ∀ m ∈ ms, m.ReadsBack g s) :
    (many ms).ReadsBack g s true := by
  intro strict
  have hrows : Model.ofRows? g strict s (Model.listJson ms) = .ok ms := by
    induction ms with
    | nil => rw [Model.listJson, Model.ofRows?]
    | cons m rest ih =>
      obtain ⟨hm, hrest⟩ := List.forall_mem_cons.mp h
      rw [Model.listJson]
      exact Model.ofRows?_cons_eq_ok.mpr ⟨m, rest, hm strict, ih hrest, rfl⟩
  simp only [json, Model.ofPayload?, if_true, hrows]
  rfl

end Related.ReadsBack

namespace Model

variable {g : Catalog} {strict : Bool} {s : Schema} {m m' : Model}

/-! ## Records in the making -/

/-- The related records of a row are put under the names of their relations. -/
theorem relatedJson_eq_map (related : List (String × Related Model)) :
    relatedJson related = related.map fun entry => (entry.1, entry.2.json) := by
  induction related with
  | nil => rw [relatedJson]; rfl
  | cons entry rest ih =>
    obtain ⟨name, _ | _ | _⟩ := entry <;> rw [relatedJson, ih] <;> rfl

/-- A record of a type that can be restored from its members: its attributes are declared fields,
and what is attached to it stands under the name of a relation and is read back. -/
structure Restorable (g : Catalog) (s : Schema) (m : Model) : Prop where
  schema : m.schema = s
  snapshot : m.snapshot = none
  orderedAttributes : KeyMap.Ordered m.attributes
  orderedRelated : KeyMap.Ordered m.related
  declared : ∀ entry ∈ m.attributes, s.hasField entry.1 = true ∧ s.relationForKey? entry.1 = none
  payloads : ∀ entry ∈ m.related, ∃ relation, s.relationForKey? entry.1 = some relation ∧
    relation.name = entry.1 ∧ entry.2.ReadsBack g (g.target relation) relation.multiple

namespace Restorable

theorem new (g : Catalog) (s : Schema) : (new s).Restorable g s :=
  ⟨rfl, rfl, .nil, .nil, nofun, nofun⟩

/-- A declared field that is no relation may be set. -/
theorem setField (h : m.Restorable g s) {key : String} (hfield : s.hasField key = true)
    (hrelation : s.relationForKey? key = none) (value : Json) :
    ({ m with attributes := KeyMap.insert m.attributes key value } : Model).Restorable g s := by
  refine ⟨h.schema, h.snapshot, h.orderedAttributes.insert key value, h.orderedRelated, ?_,
    h.payloads⟩
  intro entry hentry
  rcases KeyMap.mem_of_mem_insert hentry with rfl | hbefore
  · exact ⟨hfield, hrelation⟩
  · exact h.declared entry hbefore

/-- What is read back may be attached under the name of its relation. -/
theorem attach (h : m.Restorable g s) {relation : Relation} {r : Related Model}
    (hrelation : s.relationForKey? relation.name = some relation)
    (hr : r.ReadsBack g (g.target relation) relation.multiple) :
    (m.attach relation.name r).Restorable g s := by
  refine ⟨h.schema, h.snapshot, h.orderedAttributes, h.orderedRelated.insert relation.name r,
    h.declared, ?_⟩
  intro entry hentry
  rcases KeyMap.mem_of_mem_insert hentry with rfl | hbefore
  · exact ⟨relation, hrelation, rfl, hr⟩
  · exact h.payloads entry hbefore

end Restorable

/-- Members are read into the attributes and the related records that they hold, in whatever order
they stand. -/
theorem ofMembers?_of_payloads (members : List (String × Json))
    (related : List (String × Related Model))
    (hfields : ∀ entry ∈ members, s.relationForKey? entry.1 = none → s.hasField entry.1 = true)
    (hpayloads : ∀ entry ∈ related, ∃ relation, s.relationForKey? entry.1 = some relation ∧
      relation.name = entry.1 ∧ entry.2.ReadsBack g (g.target relation) relation.multiple)
    (hrelated : (members.filter fun entry => (s.relationForKey? entry.1).isSome) =
      related.map fun entry => (entry.1, entry.2.json))
    (strict : Bool) (m : Model) :
    ofMembers? g strict s m members = .ok { m with
      attributes := KeyMap.overlay m.attributes
        (members.filter fun entry => (s.relationForKey? entry.1).isNone)
      related := KeyMap.overlay m.related related } := by
  induction members generalizing related m with
  | nil =>
    obtain rfl : related = [] := List.map_eq_nil_iff.mp hrelated.symm
    rw [ofMembers?]
    cases m
    rfl
  | cons entry rest ih =>
    obtain ⟨key, value⟩ := entry
    obtain ⟨hfield, hrest⟩ := List.forall_mem_cons.mp hfields
    rw [ofMembers?]
    cases hkey : s.relationForKey? key with
    | none =>
      rw [List.filter_cons_of_neg (by simp [hkey])] at hrelated
      rw [List.filter_cons_of_pos (by simp [hkey])]
      dsimp only
      rw [if_pos (hfield hkey)]
      exact ih related hrest hpayloads hrelated _
    | some relation =>
      -- The first of the related records is that of the key.
      rw [List.filter_cons_of_pos (by simp [hkey])] at hrelated
      rw [List.filter_cons_of_neg (by simp [hkey])]
      obtain ⟨⟨name, r⟩, others, rfl, hfirst, hothers⟩ := List.map_eq_cons_iff.mp hrelated.symm
      obtain ⟨rfl, rfl⟩ := Prod.mk.inj hfirst
      obtain ⟨⟨relation', hrelation', hname, hr⟩, hmore⟩ := List.forall_mem_cons.mp hpayloads
      obtain rfl : relation' = relation := Option.some.inj (hrelation'.symm.trans hkey)
      show (ofPayload? g strict (g.target relation') relation'.multiple r.json).bind _ = _
      rw [hr strict, hname]
      exact ih others hrest hmore hothers.symm _

/-- A record that can be restored is read back from its JSON once it is settled. -/
theorem Restorable.readsBack (h : m.Restorable g s) : m.settle.ReadsBack g s := by
  intro strict
  let payloads : KeyMap Json := m.related.map fun entry => (entry.1, entry.2.json)
  let members : KeyMap Json := KeyMap.overlay m.attributes payloads
  have hpayloads : KeyMap.Ordered payloads := by
    have hkeys : KeyMap.keys payloads = KeyMap.keys m.related := List.map_map
    rw [KeyMap.Ordered, hkeys]
    exact h.orderedRelated
  have hrelation : ∀ entry ∈ payloads, (s.relationForKey? entry.1).isSome = true := by
    intro entry hentry
    obtain ⟨attached, hattached, rfl⟩ := List.mem_map.mp hentry
    obtain ⟨relation, hrelation, -⟩ := h.payloads attached hattached
    exact Option.isSome_of_eq_some hrelation
  -- No key has both an attribute and related records, so the members fall apart into these.
  have hattributes : (members.filter fun entry => (s.relationForKey? entry.1).isNone) =
      m.attributes := by
    rw [KeyMap.filter_overlay h.orderedAttributes hpayloads (fun key =>
        (s.relationForKey? key).isNone),
      List.filter_eq_self.mpr fun entry hentry => by rw [(h.declared entry hentry).2]; rfl,
      List.filter_eq_nil_iff.mpr fun entry hentry => by
        simp [Option.ne_none_iff_isSome.mpr (hrelation entry hentry)]]
    rfl
  have hrelated : (members.filter fun entry => (s.relationForKey? entry.1).isSome) = payloads := by
    rw [KeyMap.filter_overlay h.orderedAttributes hpayloads (fun key =>
        (s.relationForKey? key).isSome),
      List.filter_eq_nil_iff.mpr fun entry hentry => by simp [(h.declared entry hentry).2],
      List.filter_eq_self.mpr hrelation]
    exact KeyMap.ofEntries_of_ordered hpayloads
  have hfields : ∀ entry ∈ members, s.relationForKey? entry.1 = none →
      s.hasField entry.1 = true := by
    intro entry hentry hnone
    have hattribute : entry ∈ m.attributes := by
      rw [← hattributes]
      exact List.mem_filter.mpr ⟨hentry, by rw [hnone]; rfl⟩
    exact (h.declared entry hattribute).1
  have hread := ofMembers?_of_payloads members m.related hfields h.payloads hrelated strict
    (Model.new s)
  obtain ⟨snapshot, hsettle⟩ := settle_eq m
  have hjson : m.settle.toJson = .object members := by
    rw [hsettle]
    cases m
    rw [toJson, relatedJson_eq_map]
  have hmade :
      Model.mk s (KeyMap.ofEntries m.attributes) none (KeyMap.ofEntries m.related) = m := by
    rw [KeyMap.ofEntries_of_ordered h.orderedAttributes,
      KeyMap.ofEntries_of_ordered h.orderedRelated, ← h.schema, ← h.snapshot]
    cases m
    rfl
  rw [hjson, ofRow?, hread, hattributes]
  exact congrArg (fun made => Except.ok (settle made)) hmade

/-! ## Rows -/

mutual

/-- The record of a row is read back. -/
theorem readsBack_of_ofRow? (hg : g.NamesPayloads) : ∀ (row : Json) {s : Schema} {m : Model},
    s.NamesPayloads → ofRow? g strict s row = .ok m → m.ReadsBack g s
  | .object members, s, m, hs, h => by
    rw [ofRow?] at h
    obtain ⟨read, hread, rfl⟩ := map_eq_ok_iff.mp h
    exact (restorable_of_ofMembers? hg members hs (.new g s) hread).readsBack
  | .null, _, _, _, h | .bool _, _, _, _, h | .number _, _, _, _, h | .text _, _, _, _, h
  | .list _, _, _, _, h => by cases h

/-- The members of a row leave a record restorable. -/
theorem restorable_of_ofMembers? (hg : g.NamesPayloads) : ∀ (members : List (String × Json))
    {s : Schema} {m m' : Model}, s.NamesPayloads → m.Restorable g s →
      ofMembers? g strict s m members = .ok m' → m'.Restorable g s
  | [], _, _, _, _, hm, h => by
    rw [ofMembers?] at h
    cases h
    exact hm
  | (key, value) :: rest, s, m, m', hs, hm, h => by
    rw [ofMembers?] at h
    cases hkey : s.relationForKey? key with
    | some relation =>
      rw [hkey] at h
      obtain ⟨r, hpayload, hrest⟩ := bind_eq_ok_iff.mp h
      have hname := hs.name_eq hkey
      have hr := readsBack_of_ofPayload? hg value (hg.target relation) hpayload
      exact restorable_of_ofMembers? hg rest hs (hm.attach (hname ▸ hkey) hr) hrest
    | none =>
      rw [hkey] at h
      dsimp only at h
      split at h
      · rename_i hfield
        exact restorable_of_ofMembers? hg rest hs (hm.setField hfield hkey value) h
      · split at h
        · cases h
        · exact restorable_of_ofMembers? hg rest hs hm h

/-- What the payload of a relation holds is read back. -/
theorem readsBack_of_ofPayload? (hg : g.NamesPayloads) : ∀ (row : Json) {s : Schema}
    {multiple : Bool} {r : Related Model}, s.NamesPayloads →
      ofPayload? g strict s multiple row = .ok r → r.ReadsBack g s multiple
  | .null, s, multiple, r, hs, h => by
    cases h
    exact .nothing multiple
  | .object members, s, multiple, r, hs, h => by
    rw [ofPayload?] at h
    obtain ⟨read, hread, rfl⟩ := map_eq_ok_iff.mp h
    have hm := (restorable_of_ofMembers? hg members hs (.new g s) hread).readsBack
    cases multiple with
    | true => exact .many (List.forall_mem_singleton.mpr hm)
    | false => exact .one hm
  | .list rows, s, true, r, hs, h => by
    obtain ⟨read, hread, rfl⟩ := map_eq_ok_iff.mp h
    exact .many (readsBack_of_ofRows? hg rows hs hread)
  | .list [], s, false, r, hs, h => by
    cases h
    exact .nothing false
  | .list (row :: rest), s, false, r, hs, h => by
    obtain ⟨read, hread, rfl⟩ := map_eq_ok_iff.mp h
    exact .one (readsBack_of_ofRow? hg row hs hread)
  | .bool _, _, _, _, _, h | .number _, _, _, _, _, h | .text _, _, _, _, _, h => by cases h

/-- The records of some rows are read back. -/
theorem readsBack_of_ofRows? (hg : g.NamesPayloads) : ∀ (rows : List Json) {s : Schema}
    {ms : List Model}, s.NamesPayloads → ofRows? g strict s rows = .ok ms →
      ∀ m ∈ ms, m.ReadsBack g s
  | [], _, _, _, h => by
    rw [ofRows?] at h
    cases h
    exact List.forall_mem_nil _
  | row :: rest, s, ms, hs, h => by
    obtain ⟨m, ms', hm, hrest, rfl⟩ := ofRows?_cons_eq_ok.mp h
    exact List.forall_mem_cons.mpr
      ⟨readsBack_of_ofRow? hg row hs hm, readsBack_of_ofRows? hg rest hs hrest⟩

end

/-- A record that was read of a row is read again from its JSON, in strict mode or not: with the
same attributes, known to the server or not as before, and with the same records attached to it. -/
theorem ofRow?_toJson (hg : g.NamesPayloads) (hs : s.NamesPayloads) {row : Json}
    (h : ofRow? g strict s row = .ok m) (strict' : Bool) :
    ofRow? g strict' s m.toJson = .ok m :=
  readsBack_of_ofRow? hg row hs h strict'

end Model

/-- Poets with their poems, and poems with their poet. -/
def poet : Schema where
  typeName := "Poet"
  fields := ["id", "name", "poems"]
  relations := [
    { name := "poems", target := "Poem", multiple := true, link := [("poet_id", "id")] },
    { name := "teacher", target := "Poet", multiple := false, link := [("id", "teacher_id")] }]

def poem : Schema where
  typeName := "Poem"
  fields := ["id", "title"]
  relations := [
    { name := "poet", target := "Poet", multiple := false, link := [("id", "poet_id")] }]

/-- A row with a single poem in place of a list, lists in place of a single poet, and keys that are
not declared, is put down in another way, which is read as the same record. -/
theorem Model.ofRow?_toJson_poet :
    let g : Catalog := [poet, poem]
    let row : Json := .object [
      ("mood", .text "bright"), ("id", .nat 1), ("teacher", .list []),
      ("poems", .object [("poet", .list [.object [("name", .text "Ann"), ("born", .nat 7)]]),
        ("id", .nat 2)])]
    let written : Json := .object [
      ("id", .nat 1),
      ("poems", .list [.object [("id", .nat 2), ("poet", .object [("name", .text "Ann")])]]),
      ("teacher", .null)]
    ∃ m, (g.NamesPayloads ∧ poet.NamesPayloads ∧ ofRow? g false poet row = .ok m) ∧
      m.toJson = written ∧ m.isNew = false ∧
      ofRow? g true poet row = .error (.unknownAttribute "Poet" "mood") ∧
      ofRow? g true poet m.toJson = .ok m := by
  intro g row written
  have hpoet : poet.NamesPayloads := by
    intro r hr
    simp only [poet, List.mem_cons, List.not_mem_nil, or_false] at hr
    obtain rfl | rfl := hr <;> rfl
  have hpoem : poem.NamesPayloads := by
    intro r hr
    obtain rfl := List.mem_singleton.mp hr
    rfl
  have hg : g.NamesPayloads := by
    simp only [g, Catalog.NamesPayloads, List.forall_mem_cons]
    exact ⟨hpoet, hpoem, List.forall_mem_nil _⟩
  have hread : ∃ m, ofRow? g false poet row = .ok m ∧ m.toJson = written ∧ m.isNew = false :=
    ⟨_, rfl, by decide +kernel, rfl⟩
  obtain ⟨m, hm, hwritten, hstored⟩ := hread
  exact ⟨m, ⟨hg, hpoet, hm⟩, hwritten, hstored, rfl, ofRow?_toJson hg hpoet hm true⟩

end RestQuery
