import RestQuery.Proofs.Connection.Item
import RestQuery.Proofs.Filter.Criteria
import RestQuery.Proofs.Page.First
import RestQuery.Proofs.Page.Loading
import RestQuery.Proofs.Query.Returns

/-!
# One record

`one` asks for a record under its path if the condition gives its key, and else for the first page.
Over a store the first record of all is that of the first page (`Query.AsksEqual.first?_all`),
whether or not more pages are read. Under its path a record is found by its key alone: a store does
not look at what else the condition asks for (`Query.AsksEqual.eval_one_item`), while the first page
holds the row under the key only if it meets all of the condition
(`Query.AsksEqual.rows_first_page`). So the two agree exactly if the row under the key meets the
condition (`Connection.one_agrees`).
-/

namespace RestQuery

open Session Text

namespace Query

/-- What a value in a condition of the query stands for. -/
def valueOf (q : Query) (value : Json) : Json := resolve (KeyMap.overlay [] q.params) value

/-- Whether a row has the texts that some pairs ask for in their fields. -/
def Meets (q : Query) (pairs : List (String × Json)) (row : Json) : Prop :=
  ∀ pair ∈ pairs, row.textAt pair.1 = (q.valueOf pair.2).keyText

instance (q : Query) (pairs : List (String × Json)) : DecidablePred (q.Meets pairs) :=
  fun _ => inferInstanceAs (Decidable (∀ pair ∈ pairs, _))

/-- The only field of the primary key, and the text that some pairs ask for in it. -/
def keyAsked? (q : Query) (t : Schema) (pairs : List (String × Json)) : Option (String × String) :=
  match t.primaryKey with
  | [field] => (KeyMap.get? pairs field).map fun value => (field, (q.valueOf value).keyText)
  | _ => none

/-- The attributes of the record that the query reads of a row. -/
def attributesOf (q : Query) (row : Json) : KeyMap Json :=
  KeyMap.ofEntries (Store.project (commaList q.select) row).members

/-- Whether the records that the query reads of some rows are told apart by the keys that it gives
them. -/
def KeysApart (q : Query) (rows : List Json) : Prop :=
  ∀ i, q.index = some i → ∀ m m' : Model, m.attributes ∈ rows.map q.attributesOf →
    m'.attributes ∈ rows.map q.attributesOf → i.key m = i.key m' → m.attributes = m'.attributes

/-- A prepared query for values without parts compiles, with the filter of these. -/
theorem exists_describe_of_fields {q p : Query} {pairs : List (String × Json)} {g : Catalog}
    (hp : q.prepare g = .ok p) (hcondition : q.condition = some (.fields pairs))
    (hvalues : ∀ pair ∈ pairs, (q.valueOf pair.2).isLeaf) (config : Config) :
    ∃ d f, q.describe g config [] = .ok d ∧
      Filter.fields (KeyMap.overlay [] q.params) pairs = .ok f ∧
      d.clauses.filter = if f.isEmpty then none else some f := by
  obtain ⟨f, hf⟩ := Filter.exists_fields_of_isLeaf hvalues
  have hfilter : p.compiledFilter [] = .ok f := by
    obtain ⟨joins, pending, rfl⟩ := eq_of_prepare hp
    rw [compiledFilter]
    dsimp only
    rw [hcondition]
    exact hf
  have hdescribe := describe_of_filter g config (pending_of_prepare hp) hfilter
  rw [describe_of_prepare hp] at hdescribe
  exact ⟨_, f, hdescribe, hf, rfl⟩

/-- What it takes that a record is found under its path: the path is that of no collection and that
of the collection does not end in a slash, the key has a character, and the record is not mistaken
for an envelope. The names of the fields do not look like several parts of a key, and the query does
not skip the first page. -/
structure ReachesItem (conn : Connection Store) (collections : KeyMap (List Json)) (q : Query)
    (t : Schema) (pairs : List (String × Json)) (key : String) : Prop where
  key_ne : key ≠ ""
  unslashed : Store.Unslashed (trim q.resourceName)
  free : KeyMap.get? collections
    (Store.collectionPath (Command.itemPath (trim q.resourceName) key)) = none
  plain : ∀ name, conn.config.envelope = some name → t.hasField name = false
  unbroken : ∀ pair ∈ pairs, Unbroken pair.1
  first : ∀ page, (q.pageClauses conn.config).2 = some page → page = 1

/-- A query for records with given texts and whole numbers in some fields, over a store that serves
rows of their type, each with an `id` of its own. -/
structure AsksEqual (conn : Connection Store) (s : Store.Settings)
    (collections : KeyMap (List Json)) (q : Query) (t : Schema) (rows : List Json)
    (pairs : List (String × Json)) : Prop where
  answer : conn.answer = Store.send s
  size_pos : 1 ≤ s.pageSize
  maxSize_pos : 1 ≤ s.maxPageSize
  schema : q.schema = some t
  condition : q.condition = some (.fields pairs)
  distinct : (pairs.map Prod.fst).Nodup
  values : ∀ pair ∈ pairs, (q.valueOf pair.2).isPlain
  served : KeyMap.get? collections (Store.collectionPath (trim q.resourceName)) = some rows
  declares : ∀ row ∈ rows, t.Declares row
  ids : (rows.map (·.textAt "id")).Nodup
  /-- The query asks for some record, and tells the records apart. -/
  limit : q.limit ≠ some 0
  apart : q.keyAsked? t pairs = none → ∀ d, q.describe conn.catalog conn.config [] = .ok d →
    q.KeysApart (Store.matching rows d.clauses.pairs)
  /-- A key that is asked for is the `id`, and leads to a record. -/
  keyed : ∀ field key, q.keyAsked? t pairs = some (field, key) →
    field = "id" ∧ q.ReachesItem conn collections t pairs key

end Query

/-! ## The request -/

namespace Command

/-- The key of a command is the one that its condition asks for. -/
theorem key?_eq {c : Command} {q : Query} {t : Schema} {pairs : List (String × Json)} {f : Filter}
    (hschema : c.schema = some t)
    (hfilter : c.descriptor.clauses.filter = if f.isEmpty then none else some f)
    (hf : Filter.fields (KeyMap.overlay [] q.params) pairs = .ok f)
    (hdistinct : (pairs.map Prod.fst).Nodup)
    (hvalues : ∀ pair ∈ pairs, (q.valueOf pair.2).isPlain) : c.key? = q.keyAsked? t pairs := by
  -- Each pair gives one operator, so a field is in the filter exactly if it is in the pairs.
  have hget : ∀ field, (c.descriptor.clauses.filter.bind fun f => KeyMap.get? f field) =
      (KeyMap.get? pairs field).map (Filter.pairOperators (KeyMap.overlay [] q.params)) := by
    intro field
    have hfound : KeyMap.get? f field =
        (KeyMap.get? pairs field).map (Filter.pairOperators (KeyMap.overlay [] q.params)) := by
      rw [Filter.fields_eq_ok hf, KeyMap.get?_ofEntries, KeyMap.get?_map]
      simpa [Function.comp_def] using hdistinct
    rw [← hfound, hfilter]
    split
    · rename_i hnone
      rw [List.isEmpty_iff.mp hnone]
      rfl
    · rfl
  unfold key? Query.keyAsked?
  rw [hschema]
  simp only [Option.bind_eq_bind, Option.bind_some]
  rcases t.primaryKey with _ | ⟨field, _ | ⟨second, rest⟩⟩
  · rfl
  · dsimp only
    rw [← Option.bind_assoc, hget]
    cases hvalue : KeyMap.get? pairs field with
    | none => rfl
    | some value =>
      have hplain : (q.valueOf value).isPlain := hvalues _ (KeyMap.mem_of_get? hvalue)
      have hkind : ((q.valueOf value).isList || (q.valueOf value).isObject ||
          (q.valueOf value).isNull) = false := by
        cases hv : q.valueOf value <;>
          simp_all [Json.isPlain, Json.isList, Json.isObject, Json.isNull]
      have hoperators : Filter.pairOperators (KeyMap.overlay [] q.params) value =
          .object [("eq", q.valueOf value)] := Filter.pairOperators_of_isPlain hplain
      rw [Option.map_some, Option.bind_some, hoperators, Option.map_some]
      show (if (_ || _ || _) = true then none else _) = _
      rw [hkind, if_neg Bool.false_ne_true]
  · rfl

/-- The request for the record with a key goes to its path, and asks for the fields of the query. -/
theorem itemDescriptor_of_key {c : Command} {field key : String} (h : c.key? = some (field, key)) :
    (c.itemDescriptor.request .get).path = itemPath c.descriptor.uri key ∧
      (c.itemDescriptor.request .get).queryValue? "fields" = c.descriptor.clauses.fields := by
  let filter := (c.descriptor.clauses.filter.getD []).erase field
  let clauses : Clauses :=
    { c.descriptor.clauses with filter := if filter.isEmpty then none else some filter }
  have hitem : c.itemDescriptor =
      { c.descriptor with uri := itemPath c.descriptor.uri key, clauses := clauses } := by
    rw [itemDescriptor, h]
  rw [hitem]
  exact ⟨rfl, Clauses.queryValue?_fields (c := clauses) rfl⟩

/-- The action and the headers of a command do not change which record it asks for. -/
theorem request_itemDescriptor (d : Descriptor) (s : Option Schema) (action : Option Action)
    (headers : KeyMap String) :
    ({ descriptor := { d with action := action, headers := headers }, schema := s } :
        Command).itemDescriptor.request .get =
      { ({ descriptor := d, schema := s } : Command).itemDescriptor.request .get with
        headers := headers } := by
  have hkey : ({ descriptor := { d with action := action, headers := headers }, schema := s } :
      Command).key? = ({ descriptor := d, schema := s } : Command).key? := rfl
  unfold itemDescriptor
  rw [hkey]
  cases ({ descriptor := d, schema := s } : Command).key? <;> rfl

end Command

namespace Connection

variable {conn : Connection Store} {s : Store.Settings} {collections : KeyMap (List Json)}
  {q p : Query} {d : Descriptor} {w : World Store}

/-- One record is the first that is read of what a store answers, and none if nothing is found. -/
theorem eval_one (hanswer : conn.answer = Store.send s) (hw : w.Holds collections)
    (hp : q.prepare conn.catalog = .ok p) (hd : q.describe conn.catalog conn.config [] = .ok d) :
    ∃ w₁, w₁.Holds collections ∧ (eval (conn.one q) w).1 =
      match (Store.answerTo s collections (({ descriptor := d, schema := q.schema } :
          Command).itemDescriptor.request .get)).check with
      | .ok response => (eval (Cursor.materialize conn (conn.loader q) p
          (response.rows conn.config.envelope)) w₁).1.map List.head?
      | .error (.refused refusal) =>
        if refusal.failure = .notFound then .ok none else .error (.refused refusal)
      | .error e => .error e := by
  have hprepare : (q.addAction .view).prepare conn.catalog = .ok (p.addAction .view) := by
    rw [Query.prepare_of_change (·.addAction .view) rfl rfl fun _ => rfl, hp]
    rfl
  have hdescribe : (p.addAction .view).describe conn.catalog conn.config [] =
      .ok { d with action := (p.addAction .view).action } := by
    rw [Query.describe_addAction (Query.pending_of_prepare hp), Query.describe_of_prepare hp, hd]
    rfl
  -- The action changes neither which records are read nor what is loaded onto them.
  have hsame : ∀ rows, Cursor.materialize conn (conn.loader (p.addAction .view))
      (p.addAction .view) rows = Cursor.materialize conn (conn.loader q) p rows := by
    obtain ⟨joins, pending, rfl⟩ := Query.eq_of_prepare hp
    exact fun _ => rfl
  obtain ⟨c, hcommand, hrequest⟩ : ∃ c : Command, eval (conn.command (p.addAction .view)) w =
      (.ok c, { w with asked := w.asked + 1 }) ∧ c.itemDescriptor.request .get =
        { ({ descriptor := d, schema := q.schema } : Command).itemDescriptor.request .get with
          headers := conn.auth.headers w.asked } := by
    refine ⟨_, by rw [eval_command, hdescribe], ?_⟩
    rw [← Command.request_itemDescriptor, ← (Query.reads_of_prepare hp).1]
    rfl
  have hasked : { w with asked := w.asked + 1 }.Holds collections :=
    ⟨⟨hw.live, hw.undisturbed⟩, hw.queued, hw.collections⟩
  have hget : (c.itemDescriptor.request .get).method = .get := rfl
  obtain ⟨w₁, hread, hw₁, -⟩ := hasked.eval_execute hanswer hget
  rw [hrequest, Store.answerTo_headers, ← hrequest] at hread
  refine ⟨w₁, hw₁, ?_⟩
  generalize (Store.answerTo s collections (({ descriptor := d, schema := q.schema } :
      Command).itemDescriptor.request .get)).check = answer at hread ⊢
  have houtcome : eval (conn.readOne c).outcome { w with asked := w.asked + 1 } =
      (.ok answer, w₁) := by
    rw [eval_outcome, readOne, hread]
  rw [one, eval_bind_ok (by rw [eval_lift, hprepare]), eval_bind_ok hcommand,
    eval_bind_ok houtcome]
  cases answer with
  | ok response =>
    dsimp only
    rw [hsame, eval_bind]
    rcases eval (Cursor.materialize conn (conn.loader q) p _) w₁ with ⟨e | models, w₂⟩ <;> rfl
  | error e =>
    cases e with
    | refused refusal =>
      dsimp only
      split <;> rfl
    | _ => rfl

/-- Where the key goes into the path and a record is found there, one record is the first that is
read of the answer with this row. -/
theorem eval_one_of_key {rows : List Json} {field key : String}
    (hanswer : conn.answer = Store.send s) (hw : w.Holds collections)
    (hp : q.prepare conn.catalog = .ok p) (hd : q.describe conn.catalog conn.config [] = .ok d)
    (hkey : ({ descriptor := d, schema := q.schema } : Command).key? = some (field, key))
    (hne : key ≠ "") (hpath : Store.Unslashed (trim q.resourceName))
    (hfree : KeyMap.get? collections
      (Store.collectionPath (Command.itemPath (trim q.resourceName) key)) = none)
    (hserved : KeyMap.get? collections (Store.collectionPath (trim q.resourceName)) = some rows) :
    ∃ w₁, World.Holds collections w₁ ∧ (eval (conn.one q) w).1 =
      match rows.find? (Store.hasId key) with
      | none => .ok none
      | some row => (eval (Cursor.materialize conn (conn.loader q) p
          (({ status := 200, body := Store.project (Query.commaList q.select) row } :
            Response).rows conn.config.envelope)) w₁).1.map List.head? := by
  obtain ⟨huri, hfields⟩ := Query.of_describe hd
  let c : Command := { descriptor := d, schema := q.schema }
  obtain ⟨hitem, hasked⟩ := Command.itemDescriptor_of_key (c := c) hkey
  obtain ⟨w₁, hw₁, hone⟩ := eval_one hanswer hw hp hd
  have hget : (c.itemDescriptor.request .get).method = .get := rfl
  have hreply := Store.answerTo_item (s := s) hget hpath hne
    (hitem.trans (congrArg (Command.itemPath · key) huri)) hfree hserved
  rw [hasked.trans hfields] at hreply
  refine ⟨w₁, hw₁, ?_⟩
  rw [hone, hreply]
  cases rows.find? (Store.hasId key) <;> rfl

end Connection

/-! ## What is read -/

/-- The records that are read of rows with declared fields have the attributes of these rows, and
the first those of the first row. -/
theorem Cursor.attributes_of_materialize {σ : Type} {conn : Connection σ} {load : Loader σ}
    (hload : load.KeepsContents) {q : Query} {t : Schema} {rows : List Json} {w : World σ}
    {models : List Model} (hschema : q.schema = some t) (hdeclares : ∀ row ∈ rows, t.Declares row)
    (hkey : q.joins ≠ [] → q.index = none → t.primaryKey ≠ [])
    (h : (eval (materialize conn load q rows) w).1 = .ok models) :
    (∀ m ∈ models, ∃ row ∈ rows, m.attributes = KeyMap.ofEntries row.members) ∧
      models.head?.map Model.attributes =
        rows.head?.map fun row => KeyMap.ofEntries row.members := by
  obtain ⟨read, hread, hfrom, hhead⟩ :=
    Query.modelsOf_of_declares conn.catalog conn.config.strict hschema hdeclares hkey
  have hkept : models.map Model.attributes = read.map Model.attributes := by
    rw [eval_materialize_eq, hread] at h
    dsimp only at h
    split at h
    · rw [Except.ok.inj h]
    · rcases heval : eval (load read) w with ⟨e | loaded, after⟩
      · rw [heval] at h
        cases h
      · rw [heval] at h
        obtain rfl := Except.ok.inj h
        have hcontents := congrArg (List.map Prod.snd) (hload read w after loaded heval)
        simpa [Model.contents, Model.content, Function.comp_def] using hcontents
  have hattributes : ∀ row, (Model.ofFields t row).attributes = KeyMap.ofEntries row.members :=
    fun row => (Model.ofFields_eq t row).2.1
  constructor
  · intro m hm
    have hmem : m.attributes ∈ read.map Model.attributes := hkept ▸ List.mem_map_of_mem hm
    obtain ⟨m', hm', heq⟩ := List.mem_map.mp hmem
    obtain ⟨row, hrow, rfl⟩ := hfrom m' hm'
    exact ⟨row, hrow, by rw [← heq, hattributes]⟩
  · rw [← List.head?_map, hkept, List.head?_map, hhead, Option.map_map]
    exact Option.map_congr fun row _ => hattributes row

namespace Store

/-- A row has an `id` of a text with a character exactly if it has that text in this field. -/
theorem hasId_iff {key : String} (hkey : key ≠ "") (row : Json) :
    hasId key row = true ↔ row.textAt "id" = key := by
  unfold hasId Json.textAt
  rw [beq_iff_eq]
  cases row.member? "id" with
  | none => simpa using hkey.symm
  | some id => simp

/-- A page has room for one row at least. -/
theorem one_le_pageSizeFor {s : Settings} (hsize : 1 ≤ s.pageSize) (hmax : 1 ≤ s.maxPageSize)
    (request : Request) : 1 ≤ s.pageSizeFor request := by
  unfold Settings.pageSizeFor
  dsimp only
  refine Nat.le_min.mpr ⟨?_, hmax⟩
  cases hasked : ((request.queryValue? "per-page").bind (nat? maxWord64)).filter (0 < ·) with
  | none => exact hsize
  | some size => exact of_decide_eq_true (Option.filter_eq_some_iff.mp hasked).2

/-- Where the rows have different ids, no other row has the one that was found. -/
theorem filter_eq_of_key {rows : List Json} {key : String} {meets : Json → Bool}
    (hids : (rows.map (·.textAt "id")).Nodup) (hkey : key ≠ "")
    (hmeets : ∀ row, meets row = true → row.textAt "id" = key) :
    rows.filter meets = ((rows.find? (hasId key)).filter meets).toList := by
  induction rows with
  | nil => rfl
  | cons row rest ih =>
    rw [List.map_cons, List.nodup_cons] at hids
    by_cases hid : hasId key row = true
    · -- The ids differ, so no row behind the one that was found has its id.
      have hnone : rest.filter meets = [] := by
        rw [List.filter_eq_nil_iff]
        intro other hother hmeet
        have hsame := (hmeets other hmeet).trans ((hasId_iff hkey row).mp hid).symm
        exact hids.1 (hsame ▸ List.mem_map_of_mem hother)
      rw [List.find?_cons_of_pos hid, List.filter_cons, hnone, Option.filter_some]
      split <;> rfl
    · have hmiss : ¬ meets row = true := fun hmeet =>
        hid ((hasId_iff hkey row).mpr (hmeets row hmeet))
      rw [List.find?_cons_of_neg hid, List.filter_cons, if_neg hmiss, ih hids.2]

end Store

/-- An object is a single row, unless it has a member of the name of the envelope. -/
theorem Response.rows_object {members : List (String × Json)} {status : Nat}
    {envelope : Option String}
    (h : ∀ name, envelope = some name → KeyMap.get? members name = none) :
    ({ status := status, body := .object members } : Response).rows envelope =
      [.object members] := by
  have hcontent : Response.content envelope (.object members) = .object members := by
    cases envelope with
    | none => rfl
    | some name =>
      rw [Response.content, Json.member?, h name rfl]
      rfl
  unfold Response.rows
  rw [hcontent]

/-- A row with declared fields is a single row, unless one is named as the envelope. -/
theorem Response.rows_of_declares {t : Schema} {row : Json} {status : Nat}
    {envelope : Option String} (hrow : t.Declares row)
    (henvelope : ∀ name, envelope = some name → t.hasField name = false) :
    ({ status := status, body := row } : Response).rows envelope = [row] := by
  obtain ⟨members, rfl, hmembers⟩ := hrow
  refine Response.rows_object fun name hname => ?_
  rw [KeyMap.get?_eq_none_iff]
  intro hmem
  obtain ⟨entry, hentry, rfl⟩ := List.mem_map.mp hmem
  have hfield := (hmembers entry hentry).1
  rw [henvelope _ hname] at hfield
  cases hfield

namespace Query

variable {conn : Connection Store} {s : Store.Settings} {collections : KeyMap (List Json)}
  {q p : Query} {t : Schema} {rows : List Json} {d : Descriptor} {w : World Store}

/-- The rows of a page are what the query asks for of rows that match. -/
theorem exists_of_mem_page (hd : q.describe conn.catalog conn.config [] = .ok d)
    {perPage page : Option Nat} {row : Json}
    (hrow : row ∈ (Store.list s rows (({ d with clauses :=
      { d.clauses with perPage := perPage, page := page } } : Descriptor).request .get)).rows
        conn.config.envelope) :
    ∃ whole ∈ Store.matching rows d.clauses.pairs,
      row = Store.project (commaList q.select) whole := by
  let clauses : Clauses := { d.clauses with perPage := perPage, page := page }
  let request := ({ d with clauses := clauses } : Descriptor).request .get
  have hget : request.method ≠ .head := by simp [request, Descriptor.request]
  have hquery : request.query = clauses.pairs := rfl
  obtain ⟨whole, hwhole, hproject⟩ := Store.exists_of_mem_list hget hrow
  refine ⟨whole, ?_, ?_⟩
  · rw [hquery, Store.matching, Clauses.criteria_pairs] at hwhole
    rw [Store.matching, Clauses.criteria_pairs]
    exact hwhole
  · rw [hproject, Clauses.queryValue?_fields hquery]
    show Store.project d.clauses.fields whole = _
    rw [(of_describe hd).2]

/-- What is read of a page are records of rows that match. -/
theorem mem_attributesOf (hanswer : conn.answer = Store.send s) (hschema : q.schema = some t)
    (hserved : KeyMap.get? collections (Store.collectionPath (trim q.resourceName)) = some rows)
    (hdeclares : ∀ row ∈ rows, t.Declares row)
    (hkey : p.joins ≠ [] → p.index = none → t.primaryKey ≠ [])
    (hp : q.prepare conn.catalog = .ok p) (hd : q.describe conn.catalog conn.config [] = .ok d)
    (hw : w.Holds collections) {c : Cursor} (hpage : c.query.IsPageOf p) {page : Page.Info}
    {models : List Model}
    (hread : (eval (c.readPage conn (conn.loader q)) w).1 = .ok (page, models)) :
    ∀ m ∈ models, m.attributes ∈ (Store.matching rows d.clauses.pairs).map q.attributesOf := by
  obtain ⟨hsame, hjoins, hindex, -⟩ := hpage.reads
  obtain ⟨perPage, number, heq⟩ := hpage.describe_eq conn.catalog conn.config
  rw [describe_of_prepare hp, hd] at heq
  let asked : Descriptor :=
    { d with clauses := { d.clauses with perPage := perPage, page := number } }
  obtain ⟨w₁, -, hpageRead⟩ := hw.outcome_readPage_list (d := asked) hanswer (conn.loader q) heq
    (by rw [show asked.uri = _ from (of_describe hd).1]; exact hserved)
  rw [hpageRead] at hread
  obtain ⟨read, hmodels, hpair⟩ := map_eq_ok_iff.mp hread
  obtain rfl := (Prod.mk.inj hpair).2
  have hget : (asked.request .get).method ≠ .head := by simp [Descriptor.request]
  have hlisted := Store.declares_of_mem_list (s := s) hdeclares hget conn.config.envelope
  obtain ⟨hfrom, -⟩ := Cursor.attributes_of_materialize (conn.loader_keepsContents q)
    (hsame.trans ((reads_of_prepare hp).1.trans hschema)) hlisted
    (fun hjoined hnone => hkey (hjoins ▸ hjoined) (hindex ▸ hnone)) hmodels
  intro m hm
  obtain ⟨row, hrow, hattributes⟩ := hfrom m hm
  obtain ⟨whole, hwhole, rfl⟩ := exists_of_mem_page hd hrow
  rw [hattributes]
  exact List.mem_map_of_mem (f := q.attributesOf) hwhole

end Query

namespace Query.AsksEqual

variable {conn : Connection Store} {s : Store.Settings} {collections : KeyMap (List Json)}
  {q p : Query} {t : Schema} {rows : List Json} {pairs : List (String × Json)} {d : Descriptor}
  {field key : String} {w : World Store}

/-- A key that is asked for is the text of a value in the only field of the primary key. -/
theorem of_keyAsked? (h : q.keyAsked? t pairs = some (field, key)) :
    t.primaryKey = [field] ∧ ∃ value, (field, value) ∈ pairs ∧ (q.valueOf value).keyText = key := by
  unfold keyAsked? at h
  split at h
  · rename_i first hfields
    obtain ⟨value, hvalue, heq⟩ := Option.map_eq_some_iff.mp h
    obtain ⟨rfl, rfl⟩ := Prod.mk.inj heq
    exact ⟨hfields, value, KeyMap.mem_of_get? hvalue, rfl⟩
  · cases h

/-- A type whose key is asked for has a primary key. -/
theorem primaryKey_ne_nil (h : q.keyAsked? t pairs = some (field, key)) : t.primaryKey ≠ [] := by
  rw [(of_keyAsked? h).1]
  exact List.cons_ne_nil field []

/-- The filter of the compiled query is that of its pairs. -/
theorem fields_of_describe (h : q.AsksEqual conn s collections t rows pairs)
    (hd : q.describe conn.catalog conn.config [] = .ok d) :
    ∃ f, Filter.fields (KeyMap.overlay [] q.params) pairs = .ok f ∧
      d.clauses.filter = (if f.isEmpty then none else some f) ∧ d.clauses.filter.getD [] = f := by
  obtain ⟨f, hf, hfilter⟩ := filter_of_describe hd
  rw [compiledFilter, h.condition] at hf
  refine ⟨f, hf, hfilter, ?_⟩
  rw [hfilter]
  split
  · rename_i hnone
    exact (List.isEmpty_iff.mp hnone).symm
  · rfl

/-- The store lists the rows that meet the condition. -/
theorem meetsAll_iff (h : q.AsksEqual conn s collections t rows pairs)
    (hd : q.describe conn.catalog conn.config [] = .ok d)
    (hunbroken : ∀ pair ∈ pairs, Unbroken pair.1) (row : Json) :
    Store.meetsAll (Store.criteria d.clauses.pairs) row = true ↔ q.Meets pairs row := by
  obtain ⟨f, hf, -, hfilter⟩ := h.fields_of_describe hd
  rw [Clauses.criteria_pairs, hfilter, Store.meetsAll_fields hf h.distinct fun pair hpair =>
    ⟨hunbroken pair hpair, h.values pair hpair⟩, List.all_eq_true]
  exact forall₂_congr fun pair _ => beq_iff_eq

/-- Of the rows that meet the condition, none has another `id` than the one that is asked for. -/
theorem matching_item (h : q.AsksEqual conn s collections t rows pairs)
    (hd : q.describe conn.catalog conn.config [] = .ok d)
    (hkey : q.keyAsked? t pairs = some (field, key)) :
    Store.matching rows d.clauses.pairs =
      ((rows.find? (Store.hasId key)).filter fun row => q.Meets pairs row).toList := by
  obtain ⟨hid, hreaches⟩ := h.keyed field key hkey
  obtain ⟨-, value, hvalue, htext⟩ := of_keyAsked? hkey
  rw [← Store.filter_eq_of_key h.ids hreaches.key_ne]
  · rw [Store.matching]
    refine List.filter_congr fun row _ => ?_
    rw [Bool.eq_iff_iff, h.meetsAll_iff hd hreaches.unbroken, decide_eq_true_iff]
  · intro row hmeets
    have hmeet := of_decide_eq_true hmeets (field, value) hvalue
    rw [← htext, ← hmeet, hid]

/-- The records that are read are told apart by the keys that the query gives them. -/
theorem keysApart (h : q.AsksEqual conn s collections t rows pairs)
    (hd : q.describe conn.catalog conn.config [] = .ok d) :
    q.KeysApart (Store.matching rows d.clauses.pairs) := by
  cases hkey : q.keyAsked? t pairs with
  | none => exact h.apart hkey d hd
  | some entry =>
    -- There is one such record at most.
    intro i _ m m' hm hm' _
    rw [h.matching_item hd hkey] at hm hm'
    cases hfound : (rows.find? (Store.hasId entry.2)).filter fun row => q.Meets pairs row with
    | none =>
      rw [hfound] at hm
      cases hm
    | some row =>
      rw [hfound] at hm hm'
      exact (List.mem_singleton.mp hm).trans (List.mem_singleton.mp hm').symm

/-- The compiled query of a query that is prepared. -/
theorem exists_describe (h : q.AsksEqual conn s collections t rows pairs)
    (hp : q.prepare conn.catalog = .ok p) :
    ∃ d, q.describe conn.catalog conn.config [] = .ok d := by
  obtain ⟨d, -, hd, -⟩ := exists_describe_of_fields hp h.condition
    (fun pair hpair => Json.isLeaf_of_isPlain (h.values pair hpair)) conn.config
  exact ⟨d, hd⟩

/-- The first record of all is the first that is read of the first page. -/
theorem first?_all (h : q.AsksEqual conn s collections t rows pairs) (hw : w.Holds collections)
    {records : RecordSet} (hall : (eval (conn.all q) w).1 = .ok records) :
    ∃ p d w₁ models, q.prepare conn.catalog = .ok p ∧
      q.describe conn.catalog conn.config [] = .ok d ∧ World.Holds collections w₁ ∧
      (eval (Cursor.materialize conn (conn.loader q) p
        ((Store.list s rows (d.request .get)).rows conn.config.envelope)) w₁).1 = .ok models ∧
      records.first?.map Model.attributes = models.head?.map Model.attributes := by
  cases hp : q.prepare conn.catalog with
  | error e =>
    rw [Connection.all, conn.eval_allWith_of_error _ hp] at hall
    cases hall
  | ok p =>
    obtain ⟨d, hd⟩ := h.exists_describe hp
    obtain ⟨-, hindex, -⟩ := reads_of_prepare hp
    have hread : ∀ c : Cursor, c.query.IsPageOf p → ∀ w, w.Holds collections → ∀ page models,
        (eval (c.readPage conn (conn.loader q)) w).1 = .ok (page, models) → ∀ m ∈ models,
          (q.index ≠ none →
            m.attributes ∈ (Store.matching rows d.clauses.pairs).map q.attributesOf) := by
      intro c hpage w hw page models hread m hm hkeyed
      exact mem_attributesOf h.answer h.schema h.served h.declares
        (fun _ hnone => absurd (hindex.symm.trans hnone) hkeyed) hp hd hw hpage hread m hm
    have hapart : ∀ i, p.index = some i → ∀ m m' : Model,
        (q.index ≠ none →
          m.attributes ∈ (Store.matching rows d.clauses.pairs).map q.attributesOf) →
        (q.index ≠ none →
          m'.attributes ∈ (Store.matching rows d.clauses.pairs).map q.attributesOf) →
        i.key m = i.key m' → m.attributes = m'.attributes := by
      intro i hi m m' hm hm' hsame
      have hkeyed : q.index = some i := hindex.symm.trans hi
      have hne : q.index ≠ none := by rw [hkeyed]; exact Option.some_ne_none i
      exact h.keysApart hd i hkeyed m m' (hm hne) (hm' hne) hsame
    obtain ⟨page, models, hfirst, hrecords⟩ := Connection.first?_allWith hp h.limit
      (Cursor.keeps_readPage h.answer (conn.loader_holds h.answer q))
      hread hapart hw hall
    obtain ⟨w₁, hw₁, hlist⟩ := hw.outcome_readPage_list h.answer (conn.loader q)
      (c := { Cursor.start p with state := .fetching }) (d := d)
      ((describe_of_prepare hp conn.config []).trans hd)
      (by rw [(of_describe hd).1]; exact h.served)
    rw [hlist] at hfirst
    obtain ⟨read, hmodels, hpair⟩ := map_eq_ok_iff.mp hfirst
    obtain rfl := (Prod.mk.inj hpair).2
    exact ⟨p, d, w₁, read, rfl, hd, hw₁, hmodels, hrecords⟩

/-- Where no key is asked for, one record is read of the first page. -/
theorem eval_one_page (h : q.AsksEqual conn s collections t rows pairs) (hw : w.Holds collections)
    (hp : q.prepare conn.catalog = .ok p) (hd : q.describe conn.catalog conn.config [] = .ok d)
    (hkey : q.keyAsked? t pairs = none) :
    ∃ w₁, World.Holds collections w₁ ∧ (eval (conn.one q) w).1 =
      (eval (Cursor.materialize conn (conn.loader q) p
        ((Store.list s rows (d.request .get)).rows conn.config.envelope)) w₁).1.map List.head? := by
  obtain ⟨f, hf, hfilter, -⟩ := h.fields_of_describe hd
  have hcommand := Command.key?_eq (c := { descriptor := d, schema := q.schema }) h.schema
    hfilter hf h.distinct h.values
  obtain ⟨w₁, hw₁, hone⟩ := Connection.eval_one h.answer hw hp hd
  have hserved : KeyMap.get? collections (Store.collectionPath (d.request .get).path) =
      some rows := by
    show KeyMap.get? collections (Store.collectionPath d.uri) = some rows
    rw [(of_describe hd).1]
    exact h.served
  have hget : (d.request .get).method = .get := rfl
  refine ⟨w₁, hw₁, ?_⟩
  rw [hone, Command.itemDescriptor, hcommand, hkey]
  dsimp only
  rw [Store.answerTo_collection hget hserved, Store.check_list]

/-- Where a key is asked for, one record is read of the row under the key, if there is one. -/
theorem eval_one_item (h : q.AsksEqual conn s collections t rows pairs) (hw : w.Holds collections)
    (hp : q.prepare conn.catalog = .ok p) (hd : q.describe conn.catalog conn.config [] = .ok d)
    (hkey : q.keyAsked? t pairs = some (field, key)) :
    ∃ w₁, World.Holds collections w₁ ∧ (eval (conn.one q) w).1 =
      match rows.find? (Store.hasId key) with
      | none => .ok none
      | some row => (eval (Cursor.materialize conn (conn.loader q) p
          [Store.project (commaList q.select) row]) w₁).1.map List.head? := by
  obtain ⟨f, hf, hfilter, -⟩ := h.fields_of_describe hd
  obtain ⟨-, hreaches⟩ := h.keyed field key hkey
  -- The key moves from the filter into the path.
  have hcommand : ({ descriptor := d, schema := q.schema } : Command).key? = some (field, key) :=
    (Command.key?_eq h.schema hfilter hf h.distinct h.values).trans hkey
  obtain ⟨w₁, hw₁, hone⟩ := Connection.eval_one_of_key h.answer hw hp hd hcommand
    hreaches.key_ne hreaches.unslashed hreaches.free h.served
  refine ⟨w₁, hw₁, ?_⟩
  rw [hone]
  cases hfound : rows.find? (Store.hasId key) with
  | none => rfl
  | some row =>
    have hdeclares := (h.declares row (List.mem_of_find?_eq_some hfound)).project
      (commaList q.select)
    dsimp only
    rw [Response.rows_of_declares hdeclares hreaches.plain]

/-- Where a key is asked for, the first page holds the row under the key if it meets the
condition. -/
theorem rows_first_page (h : q.AsksEqual conn s collections t rows pairs)
    (hd : q.describe conn.catalog conn.config [] = .ok d)
    (hkey : q.keyAsked? t pairs = some (field, key)) :
    (Store.list s rows (d.request .get)).rows conn.config.envelope =
      (((rows.find? (Store.hasId key)).filter fun row => q.Meets pairs row).toList).map
        (Store.project (commaList q.select)) := by
  obtain ⟨-, hreaches⟩ := h.keyed field key hkey
  have hquery : (d.request .get).query = d.clauses.pairs := rfl
  have hget : (d.request .get).method ≠ .head := by simp [Descriptor.request]
  have hfirst : ∀ page ∈ d.clauses.page, page = 1 := by
    intro page hpage
    have hclauses := congrArg Prod.snd (pageClauses_of_describe hd)
    exact hreaches.first page (hclauses.symm.trans hpage)
  have hnumber : Store.pageFor (d.request .get) = 1 := by
    rw [Clauses.pageFor_eq hquery fun page hpage => by rw [hfirst page hpage]; decide]
    cases hpage : d.clauses.page with
    | none => rfl
    | some page => rw [hfirst page hpage]; rfl
  have hsize := Store.one_le_pageSizeFor h.size_pos h.maxSize_pos (d.request .get)
  -- The row that may match is on the first page, which has room for it.
  have hone : ((rows.find? (Store.hasId key)).filter fun row => q.Meets pairs row).toList.length ≤
      s.pageSizeFor (d.request .get) := Nat.le_trans (Option.length_toList_le) hsize
  rw [Store.rows_list_project hget, hquery, h.matching_item hd hkey, hnumber, Nat.sub_self,
    Nat.zero_mul, List.drop_zero, List.take_of_length_le hone, Clauses.queryValue?_fields hquery,
    (of_describe hd).2]

/-- What is read of the row under a key is a record of this row. -/
theorem attributes_item (h : q.AsksEqual conn s collections t rows pairs)
    (hp : q.prepare conn.catalog = .ok p) (hkey : q.keyAsked? t pairs = some (field, key))
    {row : Json} (hrow : row ∈ rows) {models : List Model}
    (hmodels : (eval (Cursor.materialize conn (conn.loader q) p
      [Store.project (commaList q.select) row]) w).1 = .ok models) :
    models.head?.map Model.attributes = some (q.attributesOf row) := by
  obtain ⟨hschema, -⟩ := reads_of_prepare hp
  have hdeclares := (h.declares row hrow).project (commaList q.select)
  exact (Cursor.attributes_of_materialize (conn.loader_keepsContents q) (hschema.trans h.schema)
    (List.forall_mem_singleton.mpr hdeclares) (fun _ _ => primaryKey_ne_nil hkey) hmodels).2

/-- Without relations to load, what is under a key is read. -/
theorem exists_item (h : q.AsksEqual conn s collections t rows pairs)
    (hp : q.prepare conn.catalog = .ok p) (hkey : q.keyAsked? t pairs = some (field, key))
    (heager : q.eager = []) {row : Json} (hrow : row ∈ rows) (w : World Store) :
    ∃ models, (eval (Cursor.materialize conn (conn.loader q) p
      [Store.project (commaList q.select) row]) w).1 = .ok models := by
  obtain ⟨hschema, -⟩ := reads_of_prepare hp
  have hdeclares := (h.declares row hrow).project (commaList q.select)
  obtain ⟨models, hmodels, -⟩ := modelsOf_of_declares conn.catalog conn.config.strict
    (hschema.trans h.schema) (List.forall_mem_singleton.mpr hdeclares)
    fun _ _ => primaryKey_ne_nil hkey
  refine ⟨models, ?_⟩
  rw [conn.loader_eq_pure heager, Cursor.eval_materialize_pure, hmodels]

end Query.AsksEqual

namespace Connection

variable {conn : Connection Store} {s : Store.Settings} {collections : KeyMap (List Json)}
  {q : Query} {t : Schema} {rows : List Json} {pairs : List (String × Json)} {field key : String}
  {w w' : World Store} {records : RecordSet}

/-- Where a key is asked for, the one record is that of the row under the key, and the first of all
exactly if this row meets the condition. -/
theorem one_item (h : q.AsksEqual conn s collections t rows pairs) (hw : w.Holds collections)
    (hw' : w'.Holds collections) (hall : (eval (conn.all q) w').1 = .ok records)
    (hkey : q.keyAsked? t pairs = some (field, key)) :
    ((∃ result, (eval (conn.one q) w).1 = .ok result ∧
        result.map Model.attributes = records.first?.map Model.attributes) ↔
      ∀ row, rows.find? (Store.hasId key) = some row → q.Meets pairs row) ∧
      (q.eager = [] → ∃ result, (eval (conn.one q) w).1 = .ok result) ∧
      ∀ result, (eval (conn.one q) w).1 = .ok result →
        result.map Model.attributes = (rows.find? (Store.hasId key)).map q.attributesOf := by
  obtain ⟨p, d, w₁, models, hp, hd, hw₁, hmodels, hfirst⟩ := h.first?_all hw' hall
  obtain ⟨w₂, hw₂, hone⟩ := h.eval_one_item hw hp hd hkey
  rw [h.rows_first_page hd hkey] at hmodels
  cases hfound : rows.find? (Store.hasId key) with
  | none =>
    rw [hfound] at hone hmodels
    obtain rfl : models = [] := (Except.ok.inj hmodels).symm
    -- Where no row is under the key, neither reads a record.
    refine ⟨iff_of_true ⟨none, hone, hfirst.symm⟩ nofun, fun _ => ⟨none, hone⟩, ?_⟩
    intro result hresult
    obtain rfl := Except.ok.inj (hone.symm.trans hresult)
    rfl
  | some row =>
    rw [hfound] at hone hmodels
    dsimp only at hone
    have hrow := List.mem_of_find?_eq_some hfound
    have hresults : ∀ result, (eval (conn.one q) w).1 = .ok result →
        result.map Model.attributes = some (q.attributesOf row) := by
      intro result hresult
      rw [hone] at hresult
      obtain ⟨read, hread, rfl⟩ := map_eq_ok_iff.mp hresult
      exact h.attributes_item hp hkey hrow hread
    refine ⟨?_, fun heager => ?_, hresults⟩
    · constructor
      · -- A row that misses the condition is not among all.
        rintro ⟨result, hresult, hsame⟩ other hother
        obtain rfl := Option.some.inj hother
        by_contra hmiss
        rw [Option.filter_some, if_neg (by simpa using hmiss)] at hmodels
        obtain rfl : models = [] := (Except.ok.inj hmodels).symm
        rw [hresults result hresult, hfirst] at hsame
        cases hsame
      · intro hmeets
        rw [Option.filter_some, if_pos (by simpa using hmeets row rfl)] at hmodels
        -- Both read the row alone, and what is loaded onto it is the same in both worlds.
        have hread : (eval (Cursor.materialize conn (conn.loader q) p
            [Store.project (Query.commaList q.select) row]) w₂).1 = .ok models :=
          (Cursor.same_materialize h.answer q p _ hw₂ hw₁).trans hmodels
        rw [hone, hread]
        exact ⟨models.head?, rfl, hfirst.symm⟩
    · obtain ⟨read, hread⟩ := h.exists_item hp hkey heager hrow w₂
      rw [hone, hread]
      exact ⟨read.head?, rfl⟩

/-- One record of a query for given texts and whole numbers is the first of all, exactly if the
condition does not give the key of a row that misses another part of it. Under a key that is given,
the one record is always that of the row, if there is one. -/
theorem one_agrees (h : q.AsksEqual conn s collections t rows pairs) (hw : w.Holds collections)
    (hw' : w'.Holds collections) (hall : (eval (conn.all q) w').1 = .ok records) :
    ((∃ result, (eval (conn.one q) w).1 = .ok result ∧
        result.map Model.attributes = records.first?.map Model.attributes) ↔
      ∀ field key, q.keyAsked? t pairs = some (field, key) →
        ∀ row, rows.find? (Store.hasId key) = some row → q.Meets pairs row) ∧
      ∀ field key, q.keyAsked? t pairs = some (field, key) →
        (q.eager = [] → ∃ result, (eval (conn.one q) w).1 = .ok result) ∧
        ∀ result, (eval (conn.one q) w).1 = .ok result →
          result.map Model.attributes = (rows.find? (Store.hasId key)).map q.attributesOf := by
  cases hkey : q.keyAsked? t pairs with
  | none =>
    obtain ⟨p, d, w₁, models, hp, hd, hw₁, hmodels, hfirst⟩ := h.first?_all hw' hall
    obtain ⟨w₂, hw₂, hone⟩ := h.eval_one_page hw hp hd hkey
    have hread : (eval (Cursor.materialize conn (conn.loader q) p
        ((Store.list s rows (d.request .get)).rows conn.config.envelope)) w₂).1 = .ok models :=
      (Cursor.same_materialize h.answer q p _ hw₂ hw₁).trans hmodels
    rw [hread] at hone
    exact ⟨iff_of_true ⟨models.head?, hone, hfirst.symm⟩ nofun, nofun⟩
  | some asked =>
    obtain ⟨field, key⟩ := asked
    obtain ⟨hagrees, hresults⟩ := one_item h hw hw' hall hkey
    refine ⟨hagrees.trans ⟨?_, fun hmeets => hmeets field key rfl⟩, ?_⟩
    · rintro hmeets _ _ hsame
      obtain ⟨rfl, rfl⟩ := Prod.mk.inj (Option.some.inj hsame)
      exact hmeets
    · rintro _ _ hsame
      obtain ⟨rfl, rfl⟩ := Prod.mk.inj (Option.some.inj hsame)
      exact hresults

/-- The second of two tracks is asked for by its key and its title. -/
theorem one_agrees_track :
    let track : Schema := { typeName := "Track", fields := ["id", "title"] }
    let row (id : Nat) (title : String) : Json := .object [("id", .nat id), ("title", .text title)]
    let rows := [row 1 "a", row 2 "b"]
    let pairs : List (String × Json) := [("id", .text "2"), ("title", .text "b")]
    let q : Query := { schema := some track, condition := some (.fields pairs) }
    let conn : Connection Store :=
      { catalog := [], config := {}, auth := .none, answer := Store.send {}, pageBudget := 2 }
    let w : World Store := { backend := Store.serve {} "tracks" rows }
    (q.AsksEqual conn {} w.backend.collections track rows pairs ∧ w.Holds w.backend.collections ∧
      q.keyAsked? track pairs = some ("id", "2")) ∧
      ∃ records, (eval (conn.all q) w).1 = .ok records ∧
        records.first?.map Model.attributes = some [("id", .nat 2), ("title", .text "b")] ∧
        ((∃ result, (eval (conn.one q) w).1 = .ok result ∧
            result.map Model.attributes = records.first?.map Model.attributes) ↔
          ∀ field key, q.keyAsked? track pairs = some (field, key) →
            ∀ row, rows.find? (Store.hasId key) = some row → q.Meets pairs row) ∧
          ∀ field key, q.keyAsked? track pairs = some (field, key) →
            (q.eager = [] → ∃ result, (eval (conn.one q) w).1 = .ok result) ∧
            ∀ result, (eval (conn.one q) w).1 = .ok result →
              result.map Model.attributes =
                (rows.find? (Store.hasId key)).map q.attributesOf := by
  intro track row rows pairs q conn w
  have hasked : q.keyAsked? track pairs = some ("id", "2") := by decide +kernel
  have hdeclares (id : Nat) (title : String) : track.Declares (row id title) :=
    ⟨_, rfl, by simp [track, Schema.hasField]⟩
  have hreaches : q.ReachesItem conn w.backend.collections track pairs "2" :=
    { key_ne := by decide, unslashed := by decide +kernel, free := by decide +kernel
      plain := fun _ hnone => by cases hnone
      unbroken := by decide +kernel
      first := fun _ hnone => by cases hnone }
  have hequal : q.AsksEqual conn {} w.backend.collections track rows pairs :=
    { answer := rfl, size_pos := by decide, maxSize_pos := by decide
      schema := rfl, condition := rfl, distinct := by decide, values := by decide +kernel
      served := by decide +kernel
      declares := by
        simp only [rows, List.forall_mem_cons, hdeclares, true_and]
        exact List.forall_mem_nil _
      ids := by decide +kernel, limit := by decide
      apart := by
        intro hnone
        rw [hasked] at hnone
        cases hnone
      keyed := by
        intro field key hkey
        obtain ⟨rfl, rfl⟩ := Prod.mk.inj (Option.some.inj (hasked.symm.trans hkey))
        exact ⟨rfl, hreaches⟩ }
  have hholds : w.Holds w.backend.collections := ⟨⟨rfl, rfl⟩, rfl, rfl⟩
  have hfirst : (eval (conn.all q) w).1.map (fun records => records.first?.map Model.attributes) =
      .ok (some [("id", .nat 2), ("title", .text "b")]) := by decide +kernel
  obtain ⟨records, hall, hrecords⟩ := map_eq_ok_iff.mp hfirst
  exact ⟨⟨hequal, hholds, hasked⟩, records, hall, hrecords,
    one_agrees hequal hholds hholds hall⟩

/-- Under the key of a track whose title is another, the one record is that track, and there are
none among all. The two differ too where a key without a character is asked for, where the limit is
zero, where the key lies behind the first page, where records are keyed by what they have in common,
where the path ends in a slash or is that of another collection, where a field is named as the
envelope or as a key of a filter, and where the key is not the `id`. -/
theorem one_departs :
    let track : Schema := { typeName := "Track", fields := ["id", "title"] }
    let row (id : Json) : Json := .object [("id", id), ("title", .text "first")]
    let rows := [row (.text "x"), row (.nat 1), row (.text "")]
    let outcomes (envelope : Option String) (collections : KeyMap (List Json)) (q : Query) :=
      let conn : Connection Store :=
        { catalog := [], config := { envelope := envelope }, auth := .none
          answer := Store.send {}, pageBudget := 3 }
      let w : World Store := { backend := { collections := collections } }
      ((eval (conn.one q) w).1.map (Option.map Model.attributes),
        (eval (conn.all q) w).1.map fun records => records.first?.map Model.attributes)
    let asking (pairs : List (String × Json)) : Query :=
      { schema := some track, condition := some (.fields pairs) }
    let titled := asking [("title", .text "first")]
    let first := asking [("id", .nat 1)]
    let named : Schema := { typeName := "Track", fields := ["id", "id][eq"] }
    outcomes none [("tracks", rows)] (asking [("id", .nat 1), ("title", .text "second")]) =
        (.ok (some [("id", .nat 1), ("title", .text "first")]), .ok none) ∧
      (∀ q ∈ [asking [("id", .text "")], { titled with limit := some 0 },
          { first with offset := some 20 }, { titled with index := some (.field "title") },
          { first with source := some "tracks/" },
          { titled with schema := some { track with primaryKey := ["title"] } },
          { asking [("id", .nat 1), ("id][eq", .text "x")] with schema := some named }],
        (outcomes none [("tracks", rows)] q).1 ≠ (outcomes none [("tracks", rows)] q).2) ∧
      (outcomes (some "title") [("tracks", rows)] first).1 ≠
        (outcomes (some "title") [("tracks", rows)] first).2 ∧
      (outcomes none [("tracks", rows), ("tracks/1", [row (.nat 7)])] first).1 ≠
        (outcomes none [("tracks", rows), ("tracks/1", [row (.nat 7)])] first).2 := by
  intro track row rows outcomes asking titled first named
  refine ⟨?_, ?_, ?_, ?_⟩
  · decide +kernel
  · decide +kernel
  · decide +kernel
  · decide +kernel

end Connection

end RestQuery
