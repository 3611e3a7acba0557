import RestQuery.Proofs.Query.One

/-!
# A record under its key

A query for the record with an `id` is answered by the row with that `id`, if the store reaches it
under its path (`Store.Reaches`). The answer is read as that to a list request is: if the row has a
member of the name of the envelope, what stands there is taken for the rows. So the record of the
row is read if it has no such member, and never if this is one of its fields
(`Connection.one_looks_up`): the record would be read of a part of itself.
-/

namespace RestQuery

open Session Text

/-! ## What an answer holds -/

namespace Json

/-- A member of an object is smaller than the object. -/
theorem sizeOf_lt_of_mem {members : List (String × Json)} {name : String} {value : Json}
    (h : (name, value) ∈ members) : sizeOf value < sizeOf (Json.object members) := by
  have hentry : sizeOf (name, value) < sizeOf members := List.sizeOf_lt_of_mem h
  rw [Prod.mk.sizeOf_spec] at hentry
  rw [Json.object.sizeOf_spec]
  omega

end Json

/-- What stands under the envelope is taken for the rows, so none is larger than that. -/
theorem Response.sizeOf_le_of_mem_rows {r : Response} {name : String} {value row : Json}
    (hvalue : r.body.member? name = some value) (h : row ∈ r.rows (some name)) :
    sizeOf row ≤ sizeOf value := by
  unfold Response.rows at h
  rw [Response.content, hvalue, Option.getD_some] at h
  cases value with
  | list items =>
    have hitem : sizeOf row < sizeOf items := List.sizeOf_lt_of_mem h
    rw [Json.list.sizeOf_spec]
    omega
  | null => cases h
  | _ =>
    rw [List.mem_singleton.mp h]

namespace Model

variable {g : Catalog} {strict : Bool} {t : Schema} {m : Model} {name : String} {value : Json}

/-- An attribute of a record is smaller than the row that the record is read of. -/
theorem sizeOf_lt_of_ofRow? {row : Json} (h : ofRow? g strict t row = .ok m)
    (hvalue : KeyMap.get? m.attributes name = some value) : sizeOf value < sizeOf row := by
  cases row with
  | object members =>
    rw [attributes_ofRow? h] at hvalue
    have hmem := KeyMap.mem_of_mem_ofEntries (KeyMap.mem_of_get? hvalue)
    exact Json.sizeOf_lt_of_mem (List.mem_filter.mp hmem).1
  | _ => cases h

/-- A declared field of a row is an attribute of its record. -/
theorem get?_of_ofRow? {row : Json} (h : ofRow? g strict t row = .ok m)
    (hdistinct : (KeyMap.keys row.members).Nodup) (hfield : t.hasField name)
    (hrelation : t.relationForKey? name = none) :
    KeyMap.get? m.attributes name = row.member? name := by
  cases row with
  | object members =>
    have hkept : (KeyMap.keys (members.filter fun entry =>
        (t.relationForKey? entry.1).isNone && t.hasField entry.1)).Nodup :=
      hdistinct.sublist (List.filter_sublist.map _)
    rw [attributes_ofRow? h, Json.members, KeyMap.get?_ofEntries hkept,
      KeyMap.get?_filter_key members fun key => (t.relationForKey? key).isNone && t.hasField key,
      if_pos (by simp [hrelation, hfield])]
    rfl
  | _ => cases h

/-- The first record of some rows is the record of the first. -/
theorem exists_of_head?_ofRows? {rows : List Json}
    (h : (ofRows? g strict t rows).map List.head? = .ok (some m)) :
    ∃ row ∈ rows, ofRow? g strict t row = .ok m := by
  obtain ⟨models, hmodels, hhead⟩ := map_eq_ok_iff.mp h
  rcases rows with _ | ⟨row, rest⟩
  · rw [ofRows?] at hmodels
    cases hmodels
    cases hhead
  · obtain ⟨first, others, hfirst, -, rfl⟩ := ofRows?_cons_eq_ok.mp hmodels
    rw [List.head?_cons] at hhead
    exact ⟨row, List.mem_cons_self, hfirst.trans (congrArg _ (Option.some.inj hhead))⟩

/-- A single row is read as the record of it. -/
theorem ofRows?_singleton (row : Json) :
    (ofRows? g strict t [row]).map List.head? = (ofRow? g strict t row).map some := by
  rw [ofRows?, ofRows?]
  cases ofRow? g strict t row <;> rfl

end Model

/-! ## The query -/

/-- Whether a store that holds some collections comes to the collection of a path when it is asked
for the item with a key: the path ends in a character that is no slash, and no collection is served
under the path of the item. -/
structure Store.Reaches (collections : KeyMap (List Json)) (path key : String) : Prop where
  unslashed : Unslashed path
  free : KeyMap.get? collections (collectionPath (Command.itemPath path key)) = none

/-- A query for the record with the `id` of a row, over a store that serves the row among others
with ids of their own. -/
structure Query.LooksUp (conn : Connection Store) (s : Store.Settings)
    (collections : KeyMap (List Json)) (q : Query) (t : Schema) (rows : List Json) (row : Json)
    (id : Json) : Prop where
  answer : conn.answer = Store.send s
  schema : q.schema = some t
  primaryKey : t.primaryKey = ["id"]
  /-- The query asks for a text or a whole number as `id`, and for no more. -/
  condition : q.condition = some (.fields [("id", id)])
  value : (q.valueOf id).isPlain
  select : q.select = []
  joins : q.joins = []
  pending : q.pending = []
  eager : q.eager = []
  served : KeyMap.get? collections (Store.collectionPath (trim q.resourceName)) = some rows
  ids : (rows.map (·.textAt "id")).Nodup
  mem : row ∈ rows
  distinct : (KeyMap.keys row.members).Nodup
  key_eq : row.textAt "id" = (q.valueOf id).keyText
  key_ne : row.textAt "id" ≠ ""

namespace Query.LooksUp

variable {conn : Connection Store} {s : Store.Settings} {collections : KeyMap (List Json)}
  {q : Query} {t : Schema} {rows : List Json} {row id : Json} {w : World Store}

/-- The row is the one that is found by its `id`. -/
theorem find?_eq (h : q.LooksUp conn s collections t rows row id) :
    rows.find? (Store.hasId (row.textAt "id")) = some row := by
  have hid : ∀ row', Store.hasId (row.textAt "id") row' = true ↔
      row'.textAt "id" = row.textAt "id" := Store.hasId_iff h.key_ne
  have hmem : row ∈ rows.filter (Store.hasId (row.textAt "id")) :=
    List.mem_filter.mpr ⟨h.mem, (hid row).mpr rfl⟩
  rw [Store.filter_eq_of_key h.ids h.key_ne fun row' => (hid row').mp, Option.mem_toList,
    Option.filter_eq_some_iff] at hmem
  exact hmem.1

/-- The compiled query goes to the path of the collection, and its key is the `id`. -/
theorem exists_describe (h : q.LooksUp conn s collections t rows row id) :
    ∃ d, q.describe conn.catalog conn.config [] = .ok d ∧
      ({ descriptor := d, schema := q.schema } : Command).key? = some ("id", row.textAt "id") := by
  have hplain : ∀ pair ∈ [("id", id)], (q.valueOf pair.2).isPlain :=
    List.forall_mem_singleton.mpr h.value
  obtain ⟨d, f, hd, hf, hfilter⟩ := exists_describe_of_fields (prepare_eq_self _ h.pending)
    h.condition (fun pair hpair => Json.isLeaf_of_isPlain (hplain pair hpair)) conn.config
  have hasked : q.keyAsked? t [("id", id)] = some ("id", row.textAt "id") := by
    unfold keyAsked?
    rw [h.primaryKey, h.key_eq]
    rfl
  exact ⟨d, hd, (Command.key?_eq h.schema hfilter hf (by simp) hplain).trans hasked⟩

/-- Where the store reaches the row, one record is the first that is read of the answer. -/
theorem eval_one (h : q.LooksUp conn s collections t rows row id) (hw : w.Holds collections)
    (hreach : Store.Reaches collections (trim q.resourceName) (row.textAt "id")) :
    (eval (conn.one q) w).1 =
      (Model.ofRows? conn.catalog conn.config.strict t
        (({ status := 200, body := row } : Response).rows conn.config.envelope)).map
          List.head? := by
  obtain ⟨d, hd, hkey⟩ := h.exists_describe
  obtain ⟨w₁, -, hone⟩ := Connection.eval_one_of_key h.answer hw (prepare_eq_self _ h.pending) hd
    hkey h.key_ne hreach.unslashed hreach.free h.served
  have hfields : commaList q.select = none := by
    rw [h.select]
    rfl
  rw [h.find?_eq, hfields] at hone
  dsimp only at hone
  rw [Store.project_none, conn.loader_eq_pure h.eager, Cursor.eval_materialize_pure,
    modelsOf_of_no_joins _ _ h.schema h.joins] at hone
  exact hone

/-- Below a path that ends in a slash, nothing is found. -/
theorem eval_one_of_slashed (h : q.LooksUp conn s collections t rows row id)
    (hw : w.Holds collections) (hslashed : ¬ Store.Unslashed (trim q.resourceName))
    (hfree : KeyMap.get? collections
      (Store.collectionPath (Command.itemPath (trim q.resourceName) (row.textAt "id"))) = none)
    (htrimmed : Store.Trimmed collections) : (eval (conn.one q) w).1 = .ok none := by
  obtain ⟨d, hd, hkey⟩ := h.exists_describe
  obtain ⟨w₁, -, hone⟩ := Connection.eval_one h.answer hw (prepare_eq_self _ h.pending) hd
  obtain ⟨hitem, -⟩ := Command.itemDescriptor_of_key hkey
  rw [(of_describe hd).1] at hitem
  rw [Store.answerTo_item_of_slashed hslashed h.key_ne hitem hfree htrimmed] at hone
  exact hone

/-- Where a collection is served under the path of the item, a record of this one is read. -/
theorem exists_of_eval_one (h : q.LooksUp conn s collections t rows row id)
    (hw : w.Holds collections) {others : List Json}
    (hothers : KeyMap.get? collections
      (Store.collectionPath (Command.itemPath (trim q.resourceName) (row.textAt "id"))) =
        some others) {m : Model} (hm : (eval (conn.one q) w).1 = .ok (some m)) :
    ∃ other ∈ others, Model.ofRow? conn.catalog conn.config.strict t other = .ok m := by
  obtain ⟨d, hd, hkey⟩ := h.exists_describe
  obtain ⟨w₁, -, hone⟩ := Connection.eval_one h.answer hw (prepare_eq_self _ h.pending) hd
  let c : Command := { descriptor := d, schema := q.schema }
  have hget : (c.itemDescriptor.request .get).method = .get := rfl
  obtain ⟨hitem, hfields⟩ := Command.itemDescriptor_of_key (c := c) hkey
  rw [(of_describe hd).1] at hitem
  rw [(of_describe hd).2, h.select] at hfields
  rw [Store.answerTo_collection hget (by rw [hitem]; exact hothers), Store.check_list] at hone
  dsimp only at hone
  rw [conn.loader_eq_pure h.eager, Cursor.eval_materialize_pure,
    modelsOf_of_no_joins _ _ h.schema h.joins, hm] at hone
  obtain ⟨other, hother, hread⟩ := Model.exists_of_head?_ofRows? hone.symm
  obtain ⟨whole, hwhole, rfl⟩ := Store.exists_of_mem_list (by simp [Descriptor.request]) hother
  rw [hfields] at hread
  rw [show Query.commaList [] = none from rfl, Store.project_none] at hread
  exact ⟨whole, Store.mem_of_mem_matching hwhole, hread⟩

end Query.LooksUp

namespace Connection

variable {conn : Connection Store} {s : Store.Settings} {collections : KeyMap (List Json)}
  {q : Query} {t : Schema} {rows : List Json} {row id : Json} {w : World Store}

/-- One record of a query for the `id` of a row is the first that is read of the row, where the
store reaches this: the record of the row if no member is named as the envelope, and not this record
if one of its fields is. Below a path that ends in a slash there is none, and under the path of
another collection it is one of that. -/
theorem one_looks_up (h : q.LooksUp conn s collections t rows row id)
    (hw : w.Holds collections) :
    let path := trim q.resourceName
    let key := row.textAt "id"
    let read := Model.ofRow? conn.catalog conn.config.strict t
    (Store.Reaches collections path key →
      (eval (conn.one q) w).1 =
        (Model.ofRows? conn.catalog conn.config.strict t
          (({ status := 200, body := row } : Response).rows conn.config.envelope)).map List.head? ∧
      ((∀ name, conn.config.envelope = some name → row.member? name = none) →
        (eval (conn.one q) w).1 = (read row).map some) ∧
      ∀ name, conn.config.envelope = some name → t.hasField name →
        t.relationForKey? name = none → row.member? name ≠ none → ∀ m, read row = .ok m →
          (eval (conn.one q) w).1 ≠ .ok (some m)) ∧
    (¬ Store.Unslashed path →
      KeyMap.get? collections (Store.collectionPath (Command.itemPath path key)) = none →
      Store.Trimmed collections → (eval (conn.one q) w).1 = .ok none) ∧
    ∀ others,
      KeyMap.get? collections (Store.collectionPath (Command.itemPath path key)) = some others →
        ∀ m, (eval (conn.one q) w).1 = .ok (some m) → ∃ other ∈ others, read other = .ok m := by
  intro path key read
  refine ⟨fun hreach => ?_, h.eval_one_of_slashed hw, fun others hothers m hm =>
    h.exists_of_eval_one hw hothers hm⟩
  have hone := h.eval_one hw hreach
  refine ⟨hone, fun hplain => ?_, fun name hname hfield hrelation hmember m hm hsame => ?_⟩
  · obtain ⟨members, hrow⟩ : ∃ members, row = .object members := by
      have hne := h.key_ne
      cases row with
      | object members => exact ⟨members, rfl⟩
      | _ => exact absurd rfl hne
    subst hrow
    rw [hone, Response.rows_object hplain, Model.ofRows?_singleton]
  · -- The attribute under the name would be smaller than itself.
    obtain ⟨value, hvalue⟩ := Option.ne_none_iff_exists'.mp hmember
    rw [hone] at hsame
    obtain ⟨part, hpart, hread⟩ := Model.exists_of_head?_ofRows? hsame
    rw [hname] at hpart
    have hattribute := (Model.get?_of_ofRow? hm h.distinct hfield hrelation).trans hvalue
    have hbelow := Model.sizeOf_lt_of_ofRow? hread hattribute
    have habove := Response.sizeOf_le_of_mem_rows hvalue hpart
    omega

/-- A track that has a title is not found where the envelope is named so, and one without a title
is. -/
theorem one_looks_up_title :
    let track : Schema := { typeName := "Track", fields := ["id", "title"] }
    let titled : Json := .object [("id", .nat 1), ("title", .text "first")]
    let bare : Json := .object [("id", .nat 2)]
    let asking (n : Nat) : Query :=
      { schema := some track, condition := some (.equals "id" (.nat n)) }
    let conn : Connection Store :=
      { catalog := [track], config := { envelope := some "title" }, auth := .none
        answer := Store.send {}, pageBudget := 1 }
    let w : World Store := { backend := Store.serve {} "tracks" [titled, bare] }
    let path (n : Nat) := trim (asking n).resourceName
    ((asking 1).LooksUp conn {} w.backend.collections track [titled, bare] titled (.nat 1) ∧
      (asking 2).LooksUp conn {} w.backend.collections track [titled, bare] bare (.nat 2) ∧
      w.Holds w.backend.collections ∧
      Store.Reaches w.backend.collections (path 1) (titled.textAt "id") ∧
      Store.Reaches w.backend.collections (path 2) (bare.textAt "id")) ∧
      (∀ m, Model.ofRow? conn.catalog conn.config.strict track titled = .ok m →
        (eval (conn.one (asking 1)) w).1 ≠ .ok (some m)) ∧
      (eval (conn.one (asking 2)) w).1 =
        (Model.ofRow? conn.catalog conn.config.strict track bare).map some := by
  intro track titled bare asking conn w path
  have hlooks : ∀ (n : Nat) (row : Json), row ∈ [titled, bare] →
      KeyMap.get? w.backend.collections (Store.collectionPath (path n)) = some [titled, bare] →
      (KeyMap.keys row.members).Nodup → row.textAt "id" = ((asking n).valueOf (.nat n)).keyText →
      row.textAt "id" ≠ "" →
      (asking n).LooksUp conn {} w.backend.collections track [titled, bare] row (.nat n) := by
    intro n row hmem hserved hdistinct hid hne
    exact
      { answer := rfl, schema := rfl, primaryKey := rfl, condition := rfl, value := rfl
        select := rfl, joins := rfl, pending := rfl, eager := rfl, served := hserved
        ids := by decide +kernel, mem := hmem, distinct := hdistinct, key_eq := hid
        key_ne := hne }
  have hfirst := hlooks 1 titled (by decide +kernel) (by decide +kernel) (by decide)
    (by decide +kernel) (by decide +kernel)
  have hsecond := hlooks 2 bare (by decide +kernel) (by decide +kernel) (by decide)
    (by decide +kernel) (by decide +kernel)
  have hholds : w.Holds w.backend.collections := ⟨⟨rfl, rfl⟩, rfl, rfl⟩
  have hreach : Store.Reaches w.backend.collections (path 1) (titled.textAt "id") :=
    ⟨by decide +kernel, by decide +kernel⟩
  have hreach' : Store.Reaches w.backend.collections (path 2) (bare.textAt "id") :=
    ⟨by decide +kernel, by decide +kernel⟩
  obtain ⟨-, -, hunwrapped⟩ := (one_looks_up hfirst hholds).1 hreach
  obtain ⟨-, hread, -⟩ := (one_looks_up hsecond hholds).1 hreach'
  refine ⟨⟨hfirst, hsecond, hholds, hreach, hreach'⟩, fun m hm => ?_, hread ?_⟩
  · exact hunwrapped "title" rfl (by decide) (by decide) (by decide +kernel) m hm
  · intro name hname
    obtain rfl := Option.some.inj hname
    decide +kernel

end Connection

end RestQuery
