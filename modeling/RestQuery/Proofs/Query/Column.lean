import RestQuery.Proofs.Page.Keyed
import RestQuery.Proofs.Query.One
import RestQuery.Proofs.Query.Select

/-!
# Columns

A column holds one value of each record, under the keys that all records have. Its records are read
with the fields that the query asks for, and with the field of its index if it asks for one field
only. The value is that of this field, or else of the first one of the primary key, and a record has
it only if it was asked for (`Query.asksFor_iff`).

`Connection.column_reads` compares a column with the records that are read with all their fields:
the keys are the same if the fields that they are read from are asked for, and the values if the
value field is. A value that is not asked for is `null`.
-/

namespace RestQuery

open Session Text

namespace Query

variable {q : Query} {field : String}

instance (q : Query) (field : String) : Decidable (q.AsksFor field) :=
  inferInstanceAs (Decidable (∀ fields ∈ commaList q.select, field ∈ pieces ',' fields))

/-- Where no name has a comma, a query asks for the fields that it names, unless it names none. -/
theorem asksFor_iff (hplain : ∀ name ∈ q.select, ',' ∉ name.toList) :
    q.AsksFor field ↔ (∀ name ∈ q.select, name = "") ∨ field ∈ q.select ∧ field ≠ "" := by
  have hpieces : ∀ name ∈ q.select, pieces ',' name = [name] := by
    intro name hname
    rw [pieces, piecesOf_of_not_mem (hplain name hname), List.map_singleton, String.ofList_toList]
  have hmem : ∀ name, name ∈ ((commaList q.select).map (pieces ',')).getD [] ↔
      name ∈ q.select ∧ name ≠ "" := by
    intro name
    rw [mem_pieces_commaList]
    constructor
    · rintro ⟨part, hpart, hne, hname⟩
      rw [hpieces part hpart, List.mem_singleton] at hname
      exact hname ▸ ⟨hpart, hne⟩
    · rintro ⟨hname, hne⟩
      exact ⟨name, hname, hne, hpieces name hname ▸ List.mem_singleton_self name⟩
  unfold AsksFor
  cases hfields : commaList q.select with
  | none =>
    rw [hfields] at hmem
    have hempty : ∀ name ∈ q.select, name = "" := fun name hname =>
      by_contra fun hne => List.not_mem_nil ((hmem name).mpr ⟨hname, hne⟩)
    exact iff_of_true (fun _ hnone => absurd hnone (Option.not_mem_none _)) (.inl hempty)
  | some fields =>
    rw [hfields] at hmem
    obtain ⟨first, hfirst⟩ := List.exists_mem_of_ne_nil _ (pieces_ne_nil ',' fields)
    obtain ⟨hselected, hne⟩ := (hmem first).mp hfirst
    have hnamed : ¬ ∀ name ∈ q.select, name = "" := fun hempty => hne (hempty first hselected)
    rw [or_iff_right hnamed, ← hmem field]
    simp

/-- The query that the records of a column are read with. -/
def forColumn (q : Query) : Query :=
  match q.index, q.select with
  | some (.field name), [_] => q.addSelect [name]
  | _, _ => q

/-- The records of a column are read as those of the query, with some fields. -/
theorem exists_forColumn (q : Query) : ∃ fields, q.forColumn = q.selecting fields := by
  unfold forColumn
  split
  · exact ⟨_, rfl⟩
  · exact ⟨q.select, rfl⟩

/-- The page of a query with some fields is the page of the query with these. -/
theorem IsPageOf.selecting {q p : Query} (h : q.IsPageOf p) (fields : List String) :
    (q.selecting fields).IsPageOf (p.selecting fields) := by
  obtain rfl | ⟨size, offset, rfl⟩ := h
  · exact .inl rfl
  · exact .inr ⟨size, offset, rfl⟩

/-- A query for a column of a type, over a store that serves rows of the type without parts. -/
structure ReadsColumn (conn : Connection Store) (s : Store.Settings)
    (collections : KeyMap (List Json)) (q : Query) (t : Schema) (rows : List Json)
    (field : String) : Prop where
  answer : conn.answer = Store.send s
  schema : q.schema = some t
  served : KeyMap.get? collections (Store.collectionPath (trim q.resourceName)) = some rows
  declares : ∀ row ∈ rows, t.Declares row
  leaves : ∀ row ∈ rows, ∀ entry ∈ row.members, entry.2.isLeaf
  keyed : t.primaryKey ≠ []
  index : ∀ index ∈ q.index, ∃ name, index = .field name
  column : Connection.columnField? q t = .ok field

end Query

/-- A field that is not asked for is not found in what is left of a row without parts. -/
theorem Query.get?_attributesOf_of_not_asksFor {q : Query} {field : String} {row : Json}
    (hleaves : ∀ entry ∈ row.members, entry.2.isLeaf) (h : ¬ q.AsksFor field) :
    KeyMap.get? (q.attributesOf row) field = none := by
  obtain ⟨fields, hfields, hfield⟩ : ∃ fields, commaList q.select = some fields ∧
      field ∉ pieces ',' fields := by simpa [AsksFor] using h
  rw [attributesOf, hfields, KeyMap.get?_eq_none_iff]
  intro hmem
  obtain ⟨entry, hentry, rfl⟩ := List.mem_map.mp hmem
  have hkept := KeyMap.mem_of_mem_ofEntries hentry
  cases row with
  | object members =>
    obtain ⟨hentry, hwanted⟩ := List.mem_filter.mp hkept
    have hleaf := hleaves entry hentry
    rw [Bool.or_eq_true, Bool.or_eq_true, List.contains_iff_mem] at hwanted
    obtain ⟨name, value⟩ := entry
    rcases hwanted with (hwanted | hobject) | hlist
    · exact hfield hwanted
    · cases value <;> simp_all [Json.isObject, Json.isLeaf]
    · cases value <;> simp_all [Json.isList, Json.isLeaf]
  | _ => cases hkept

/-- The value of a field of a record, `null` if the record lacks it. -/
def Model.valueOf (m : Model) (field : String) : Json := (KeyMap.get? m.attributes field).getD .null

namespace RecordSet

/-- Values of some records, under the keys of the records. -/
def column (value : Model → Json) (records : RecordSet) : List (RowKey × Json) :=
  records.entries.map fun (key, m) => (key, value m)

/-- Sets of related records under the same keys have one column, if related records have one value.
-/
theorem Alike.column_eq {R : Model → Model → Prop} {s s' : RecordSet} (h : s.Alike R s')
    {value value' : Model → Json} (hvalue : ∀ m m', R m m' → value m = value' m') :
    s.column value = s'.column value' := by
  have hentries : List.Forall₂ (· = ·) (s.column value) (s'.column value') :=
    List.forall₂_map_left_iff.mpr (List.forall₂_map_right_iff.mpr (h.imp fun _ _ hentry =>
      Prod.ext hentry.1 (hvalue _ _ hentry.2)))
  exact List.forall₂_eq_eq_eq ▸ hentries

/-- Two columns of a set are the same if the values of all its records are. -/
theorem column_eq_iff {records : RecordSet} {value value' : Model → Json} :
    records.column value = records.column value' ↔
      ∀ m ∈ records.models, value m = value' m := by
  rw [column, column, List.map_inj_left, models, List.forall_mem_map]
  simp only [Prod.mk.injEq, true_and]

end RecordSet

/-- The value of a record in the column of a query: that of a field if it is asked for. -/
def Query.columnValue (q : Query) (field : String) (m : Model) : Json :=
  if q.forColumn.AsksFor field then m.valueOf field else .null

namespace Query.ReadsColumn

variable {conn : Connection Store} {s : Store.Settings} {collections : KeyMap (List Json)}
  {q p : Query} {t : Schema} {rows : List Json} {field : String} {w w' : World Store}

/-- The records of a column are read with the relations of the query. -/
theorem all_forColumn (conn : Connection Store) (q : Query) :
    conn.all q.forColumn = conn.allWith (conn.loader q) q.forColumn := by
  obtain ⟨fields, hfields⟩ := q.exists_forColumn
  rw [hfields]
  rfl

/-- A column is made of the records that are read with the fields of the column. -/
theorem eval_column (h : q.ReadsColumn conn s collections t rows field) (w : World Store) :
    (eval (conn.column q) w).1 =
      (eval (conn.all q.forColumn) w).1.map (RecordSet.column (·.valueOf field)) := by
  have hschema : q.schema? = .ok t := by rw [schema?, h.schema]
  simp only [Connection.column, eval_bind_ok (eval_lift _ w), hschema, h.column]
  show (eval (conn.all q.forColumn >>= _) w).1 = _
  rw [eval_bind]
  rcases eval (conn.all q.forColumn) w with ⟨e | records, after⟩ <;> rfl

/-- What is read of a page for a column are records of rows, with the fields that are asked for. -/
theorem mem_page (h : q.ReadsColumn conn s collections t rows field)
    (hp : q.forColumn.prepare conn.catalog = .ok p) (hw : w.Holds collections) {c : Cursor}
    (hpage : c.query.IsPageOf p) {page : Page.Info} {models : List Model}
    (hread : (eval (c.readPage conn (conn.loader q)) w).1 = .ok (page, models)) :
    ∀ m ∈ models, m.attributes ∈ rows.map q.forColumn.attributesOf := by
  obtain ⟨fields, hfields⟩ := q.exists_forColumn
  rw [hfields] at hp ⊢
  cases hd : (q.selecting fields).describe conn.catalog conn.config [] with
  | error e =>
    obtain ⟨perPage, number, heq⟩ := hpage.describe_eq conn.catalog conn.config
    obtain ⟨w₁, -, hfailed⟩ := hw.outcome_readPage h.answer (conn.loader q) c
    rw [hread, heq, describe_of_prepare hp, hd] at hfailed
    cases hfailed
  | ok d =>
    intro m hm
    obtain ⟨row, hrow, heq⟩ := List.mem_map.mp (mem_attributesOf (q := q.selecting fields) h.answer
      h.schema h.served h.declares (fun _ _ => h.keyed) hp hd hw hpage hread m hm)
    exact heq ▸ List.mem_map_of_mem (Store.mem_of_mem_matching hrow)

/-- A record lacks the fields that are not asked for. -/
theorem get?_of_not_asksFor (h : q.ReadsColumn conn s collections t rows field) {name : String}
    (hname : ¬ q.forColumn.AsksFor name) {m : Model}
    (hm : m.attributes ∈ rows.map q.forColumn.attributesOf) :
    KeyMap.get? m.attributes name = none := by
  obtain ⟨row, hrow, heq⟩ := List.mem_map.mp hm
  rw [← heq]
  exact get?_attributesOf_of_not_asksFor (h.leaves row hrow) hname

/-- A column is that of the records that are read with all fields, under the same keys, if the
fields that keys are read from are asked for. -/
theorem column_alike (h : q.ReadsColumn conn s collections t rows field)
    (hkeys : ∀ name ∈ (q.selecting []).keyFields conn.catalog t, q.forColumn.AsksFor name)
    (hw : w.Holds collections) (hw' : w'.Holds collections) :
    OutcomesAlike (q.eager = []) (· = ·)
      ((eval (conn.all (q.selecting [])) w').1.map (RecordSet.column (q.columnValue field)))
      (eval (conn.column q) w).1 := by
  obtain ⟨fields, hfields⟩ := q.exists_forColumn
  have htwice : (q.selecting []).SelectedTwice conn s collections fields t rows :=
    { answer := h.answer, schema := h.schema, served := h.served, declares := h.declares
      index := h.index, keys := fun name hname => ⟨nofun, hfields ▸ hkeys name hname⟩ }
  have hselected : q.forColumn.prepare conn.catalog =
      ((q.selecting []).prepare conn.catalog).map (·.selecting fields) :=
    hfields ▸ prepare_selecting conn.catalog (q.selecting []) fields
  rw [h.eval_column, all_forColumn]
  show OutcomesAlike _ _ ((eval (conn.allWith (conn.loader q) (q.selecting [])) w').1.map _) _
  cases hp : (q.selecting []).prepare conn.catalog with
  | error e =>
    rw [hp] at hselected
    rw [conn.eval_allWith_of_error _ hp, conn.eval_allWith_of_error _ hselected]
    exact fun _ => rfl
  | ok p =>
    rw [hp] at hselected
    have hpages := (htwice.pagesAlike hp).and_right
      (P := fun m => m.attributes ∈ rows.map q.forColumn.attributesOf)
      fun ⟨hpage, hsame⟩ _ hw _ _ hread =>
        h.mem_page hselected hw (hsame ▸ hpage.selecting fields) hread
    refine (hpages.allWith hp hselected ⟨.inl rfl, rfl⟩ rfl rfl hw' hw).map
      fun records records' halike => halike.column_eq fun m m' ⟨hm', hagree⟩ => ?_
    unfold columnValue Model.valueOf
    split
    · rename_i hasked
      exact congrArg (·.getD .null) (hagree.2.2 field ⟨nofun, hfields ▸ hasked⟩)
    · rename_i hasked
      rw [h.get?_of_not_asksFor hasked hm']
      rfl

/-- Records whose index is not asked for stand under the empty text. -/
theorem keys_of_not_asksFor (h : q.ReadsColumn conn s collections t rows field) {name : String}
    (hindex : q.index = some (.field name)) (hname : ¬ q.forColumn.AsksFor name)
    (hw : w.Holds collections) {records : RecordSet}
    (hrecords : (eval (conn.all q.forColumn) w).1 = .ok records) (value : Model → Json) :
    ∀ entry ∈ records.column value, entry.1 = .named "" := by
  rw [all_forColumn] at hrecords
  cases hp : q.forColumn.prepare conn.catalog with
  | error e =>
    rw [conn.eval_allWith_of_error _ hp] at hrecords
    cases hrecords
  | ok p =>
    have hpindex : p.index = some (.field name) := by
      obtain ⟨fields, hfields⟩ := q.exists_forColumn
      rw [(reads_of_prepare hp).2.1, hfields]
      exact hindex
    have hkeyed := Connection.named_of_allWith
      (P := fun m => m.attributes ∈ rows.map q.forColumn.attributesOf) hp hpindex
      (Cursor.keeps_readPage h.answer (conn.loader_holds h.answer q))
      (fun c hpage w hw page models hread => h.mem_page hp hw hpage hread) hw hrecords
    intro entry hentry
    obtain ⟨⟨key, m⟩, hmem, rfl⟩ := List.mem_map.mp hentry
    obtain ⟨hkey, hm⟩ := hkeyed (key, m) hmem
    have hnone : KeyMap.get? m.attributes name = none := h.get?_of_not_asksFor hname hm
    exact hkey.trans (by rw [Index.key, hnone]; rfl)

end Query.ReadsColumn

namespace Connection

variable {conn : Connection Store} {s : Store.Settings} {collections : KeyMap (List Json)}
  {q : Query} {t : Schema} {rows : List Json} {field : String} {w w' : World Store}

/-- If a column asks for the fields that keys are read from, it has the keys of the records that are
read with all their fields, in order, and under each key the value of the value field if it asks for
this, and `null` if not. So it holds the values of the records exactly if it asks for the value
field, or if these values are all `null`. Where relations are loaded by further requests, either run
may fail alone for what these meet. If a column does not ask for the field of the index, all of its
records have the empty text for their key. -/
theorem column_reads (h : q.ReadsColumn conn s collections t rows field)
    (hw : w.Holds collections) (hw' : w'.Holds collections) :
    ((∀ name ∈ (q.selecting []).keyFields conn.catalog t, q.forColumn.AsksFor name) →
      (q.eager = [] → (eval (conn.column q) w).1 =
          (eval (conn.all (q.selecting [])) w').1.map (RecordSet.column (q.columnValue field))) ∧
        ∀ records column, (eval (conn.all (q.selecting [])) w').1 = .ok records →
          (eval (conn.column q) w).1 = .ok column →
            column = records.column (q.columnValue field) ∧
              (column = records.column (·.valueOf field) ↔
                q.forColumn.AsksFor field ∨ ∀ m ∈ records.models, m.valueOf field = .null)) ∧
      ∀ name, q.index = some (.field name) → ¬ q.forColumn.AsksFor name →
        ∀ column, (eval (conn.column q) w).1 = .ok column →
          ∀ entry ∈ column, entry.1 = .named "" := by
  refine ⟨fun hkeys => ?_, fun name hindex hname column hcolumn => ?_⟩
  · have halike := h.column_alike hkeys hw hw'
    refine ⟨fun hexact => (halike.eq_of_exact hexact).symm, fun records column hall hcolumn => ?_⟩
    rw [hall, hcolumn] at halike
    obtain rfl : records.column (q.columnValue field) = column := halike
    refine ⟨rfl, ?_⟩
    rw [RecordSet.column_eq_iff]
    unfold Query.columnValue
    by_cases hasked : q.forColumn.AsksFor field
    · simp [hasked]
    · simp [hasked, eq_comm]
  · rw [h.eval_column] at hcolumn
    obtain ⟨records, hrecords, rfl⟩ := map_eq_ok_iff.mp hcolumn
    exact h.keys_of_not_asksFor hindex hname hw hrecords _

/-- Where the title and the year of a track are selected, its column holds `null` and not its
number, and if it is keyed by the number then its key is empty. -/
theorem column_reads_two_fields :
    let track : Schema := { typeName := "Track", fields := ["id", "title", "year"] }
    let conn : Connection Store :=
      { catalog := [track], config := {}, auth := .none, answer := Store.send {}, pageBudget := 2 }
    let rows := [Json.object [("id", .nat 1), ("title", .text "first"), ("year", .nat 1990)]]
    let w : World Store := { backend := Store.serve {} "tracks" rows }
    let q := (Query.of track).selecting ["title", "year"]
    let keyed := q.indexBy (.field "id")
    (q.ReadsColumn conn {} w.backend.collections track rows "id" ∧
      keyed.ReadsColumn conn {} w.backend.collections track rows "id" ∧
      w.Holds w.backend.collections ∧
      ∀ name ∈ (q.selecting []).keyFields conn.catalog track, q.forColumn.AsksFor name) ∧
    (∃ records column, (eval (conn.all (q.selecting [])) w).1 = .ok records ∧
      records.column (·.valueOf "id") = [(.index 0, .nat 1)] ∧
      (eval (conn.column q) w).1 = .ok column ∧ column = [(.index 0, .null)] ∧
      column = records.column (q.columnValue "id") ∧
      ¬ (q.forColumn.AsksFor "id" ∨ ∀ m ∈ records.models, m.valueOf "id" = .null)) ∧
    ∃ column, (eval (conn.column keyed) w).1 = .ok column ∧ column ≠ [] ∧
      ∀ entry ∈ column, entry.1 = .named "" := by
  intro track conn rows w q keyed
  have hholds : w.Holds w.backend.collections := ⟨⟨rfl, rfl⟩, rfl, rfl⟩
  have hdeclares : ∀ row ∈ rows, track.Declares row := by
    refine List.forall_mem_singleton.mpr ⟨_, rfl, ?_⟩
    simp [track, Schema.hasField]
  have hleaves : ∀ row ∈ rows, ∀ entry ∈ row.members, entry.2.isLeaf := by decide +kernel
  have hserved : KeyMap.get? w.backend.collections
      (Store.collectionPath (trim q.resourceName)) = some rows := by decide +kernel
  have hreads : q.ReadsColumn conn {} w.backend.collections track rows "id" :=
    { answer := rfl, schema := rfl, served := hserved, declares := hdeclares, leaves := hleaves
      keyed := List.cons_ne_nil _ _, column := rfl
      index := fun _ hindex => absurd hindex (Option.some_ne_none _).symm }
  have hkeyed : keyed.ReadsColumn conn {} w.backend.collections track rows "id" :=
    { answer := rfl, schema := rfl, served := hserved, declares := hdeclares, leaves := hleaves
      keyed := List.cons_ne_nil _ _, column := rfl
      index := fun index hindex => ⟨"id", (Option.some.inj hindex).symm⟩ }
  have hkeys : ∀ name ∈ (q.selecting []).keyFields conn.catalog track, q.forColumn.AsksFor name :=
    List.forall_mem_nil _
  have hrecords : (eval (conn.all (q.selecting [])) w).1.map (RecordSet.column (·.valueOf "id")) =
      .ok [(.index 0, .nat 1)] := by decide +kernel
  obtain ⟨records, hall, hvalues⟩ := map_eq_ok_iff.mp hrecords
  have hcolumn : (eval (conn.column q) w).1 = .ok [(.index 0, .null)] := by decide +kernel
  have hempty : (eval (conn.column keyed) w).1 = .ok [(.named "", .null)] := by decide +kernel
  obtain ⟨hfound, hiff⟩ := ((column_reads hreads hholds hholds).1 hkeys).2 records _ hall hcolumn
  refine ⟨⟨hreads, hkeyed, hholds, hkeys⟩,
    ⟨records, _, hall, hvalues, hcolumn, rfl, hfound, fun hsame => ?_⟩,
    _, hempty, List.cons_ne_nil _ _, ?_⟩
  · rw [← hiff, hvalues] at hsame
    exact absurd hsame (by decide)
  · exact (column_reads hkeyed hholds hholds).2 "id" rfl (by decide +kernel) _ hempty

end Connection

end RestQuery
