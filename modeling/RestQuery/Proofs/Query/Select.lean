import RestQuery.Proofs.Page.Alike
import RestQuery.Proofs.Page.Loading

/-!
# Queries that ask for some fields only

A store leaves those members out of a row that a query does not ask for, unless they hold lists or
objects. A query that asks for other fields therefore reads the same records, which agree on the
fields that both queries ask for (`Model.AgreeOn`).

The keys of a result may be read from fields, too: from the field that the query is keyed by, or
from the primary key where repetitions are to be found (`Query.keyFields`). If both queries ask for
these, the results have the same keys (`Connection.keys_of_selecting`). If not, records are keyed by
the empty text or their repetitions are not found (`Connection.keys_not_selected`).
-/

namespace RestQuery

open Session Text

namespace Query

/-- Whether a query asks for a field, which it does of any if it names none. -/
def AsksFor (q : Query) (field : String) : Prop :=
  ∀ fields ∈ commaList q.select, field ∈ pieces ',' fields

/-- Whether a query asks for a field, and does so with other fields. -/
def AsksTwice (q : Query) (fields : List String) (field : String) : Prop :=
  q.AsksFor field ∧ (q.selecting fields).AsksFor field

/-- The fields that the keys of the records of a query are read from. -/
def keyFields (g : Catalog) (q : Query) (t : Schema) : List String :=
  match q.index with
  | some (.field name) => [name]
  | some (.function _) => []
  | none => match q.prepare g with
    | .ok p => if p.joins.isEmpty then [] else t.primaryKey
    | .error _ => []

variable {g : Catalog} {config : Config} {q : Query} {fields : List String}

/-- Preparing a query does not look at the fields that it asks for. -/
theorem prepare_selecting (g : Catalog) (q : Query) (fields : List String) :
    (q.selecting fields).prepare g = (q.prepare g).map (·.selecting fields) :=
  prepare_of_change (·.selecting fields) rfl rfl fun _ => rfl

/-- The compiled query for other fields has these in the clause for fields, and is else the same. -/
theorem describe_selecting (g : Catalog) (config : Config) (q : Query) (fields : List String) :
    (q.selecting fields).describe g config [] =
      (q.describe g config []).map fun d =>
        { d with clauses := { d.clauses with fields := commaList fields } } := by
  unfold describe
  rw [prepare_selecting]
  cases q.prepare g with
  | error e => rfl
  | ok prepared =>
    have hfilter : (prepared.selecting fields).compiledFilter [] = prepared.compiledFilter [] := rfl
    have hpage : (prepared.selecting fields).pageClauses config = prepared.pageClauses config := rfl
    show Except.bind (clauses config [] (prepared.selecting fields)) _ =
      (Except.bind (clauses config [] prepared) _).map _
    rw [clauses, clauses, hfilter, hpage]
    cases prepared.compiledFilter [] <;> rfl

end Query

/-! ## Rows with some of their fields -/

/-- A field that is asked for is found in what is left of a row. -/
theorem Model.get?_ofFields_project (t : Schema) (row : Json) {wanted : Option String}
    {field : String} (h : ∀ fields ∈ wanted, field ∈ pieces ',' fields) :
    KeyMap.get? (ofFields t (Store.project wanted row)).attributes field =
      KeyMap.get? (ofFields t row).attributes field := by
  rw [(ofFields_eq t _).2.1, (ofFields_eq t row).2.1]
  cases wanted with
  | none => rw [Store.project_none]
  | some fields =>
    cases row with
    | object members =>
      refine KeyMap.get?_overlay_filter members (fun entry _ hentry => ?_) rfl
      -- A member that is asked for by name is kept whatever it holds.
      rw [Bool.or_eq_true, Bool.or_eq_true]
      left; left
      rw [List.contains_iff_mem, hentry]
      exact h fields rfl
    | _ => rfl

/-- Two requests that differ in the fields that they ask for are answered by one page of rows, each
with its own fields, and are told the same of it. -/
theorem Store.list_withFields {s : Settings} {rows : List Json} {r r' : Request} {c : Clauses}
    {fields : Option String} (hget : r.method = .get) (hget' : r'.method = .get)
    (hquery : r.query = c.pairs) (hquery' : r'.query = { c with fields := fields }.pairs) :
    ∃ items : List Json, (∀ row ∈ items, row ∈ rows) ∧
      (∀ envelope, (list s rows r).rows envelope = items.map (project c.fields)) ∧
      (∀ envelope, (list s rows r').rows envelope = items.map (project fields)) ∧
      ∀ names, Page.Info.ofResponse names (list s rows r') =
        Page.Info.ofResponse names (list s rows r) := by
  -- The rows that match and the page of them are told by clauses that both requests have.
  have hcriteria : criteria r'.query = criteria r.query := by
    rw [hquery, hquery', Clauses.criteria_pairs, Clauses.criteria_pairs]
  have hsize : s.pageSizeFor r' = s.pageSizeFor r := by
    rw [Settings.pageSizeFor, Settings.pageSizeFor, Clauses.queryValue?_perPage hquery,
      Clauses.queryValue?_perPage hquery']
  have hpage : pageFor r' = pageFor r := by
    rw [pageFor, pageFor, Clauses.queryValue?_page hquery, Clauses.queryValue?_page hquery']
  have hmethod : r.method ≠ .head := hget.trans_ne (by decide)
  have hmethod' : r'.method ≠ .head := hget'.trans_ne (by decide)
  have hheaders : (list s rows r').headers = (list s rows r).headers := by
    simp only [list, Response.withHeader, hcriteria, hsize, hpage]
  refine ⟨((matching rows r.query).drop ((pageFor r - 1) * s.pageSizeFor r)).take
    (s.pageSizeFor r), ?_, ?_, ?_, ?_⟩
  · intro row hrow
    exact (List.mem_filter.mp (List.mem_of_mem_drop (List.mem_of_mem_take hrow))).1
  · intro envelope
    rw [rows_list_project hmethod, Clauses.queryValue?_fields hquery]
  · intro envelope
    rw [rows_list_project hmethod', Clauses.queryValue?_fields hquery', hsize, hpage, matching,
      hcriteria, matching]
  · intro names
    simp only [Page.Info.ofResponse, Response.header?, hheaders]

namespace Model

/-- Whether two contents are of a type and agree on some fields. -/
def ContentsAgree (t : Schema) (P : String → Prop) (a b : Schema × KeyMap Json) : Prop :=
  a.1 = t ∧ b.1 = t ∧ ∀ field, P field → KeyMap.get? a.2 field = KeyMap.get? b.2 field

/-- Whether two records are of a type and agree on some fields. -/
def AgreeOn (t : Schema) (P : String → Prop) (m m' : Model) : Prop :=
  ContentsAgree t P m.content m'.content

variable {t : Schema} {P : String → Prop}

/-- What is attached to records does not matter for whether they agree. -/
theorem forall₂_agreeOn_iff {models models' : List Model} :
    List.Forall₂ (AgreeOn t P) models models' ↔
      List.Forall₂ (ContentsAgree t P) (contents models) (contents models') := by
  rw [contents, contents, List.forall₂_map_left_iff, List.forall₂_map_right_iff]
  rfl

/-- Records that agree on the fields of the primary key have one key. -/
theorem AgreeOn.primaryKey?_eq {m m' : Model} (h : AgreeOn t P m m')
    (hkey : ∀ field ∈ t.primaryKey, P field) : m.primaryKey? = m'.primaryKey? := by
  have hvalues : ∀ fields : List String, (∀ field ∈ fields, P field) →
      fields.mapM (fun field => Json.present? (KeyMap.get? m.attributes field)) =
        fields.mapM (fun field => Json.present? (KeyMap.get? m'.attributes field)) := by
    intro fields hfields
    induction fields with
    | nil => rfl
    | cons field rest ih =>
      have hfield : KeyMap.get? m.attributes field = KeyMap.get? m'.attributes field :=
        h.2.2 field (hfields field List.mem_cons_self)
      rw [List.mapM_cons, List.mapM_cons, hfield,
        ih fun other hother => hfields other (List.mem_cons_of_mem _ hother)]
  have hschema : m.schema = t := h.1
  have hschema' : m'.schema = t := h.2.1
  rw [primaryKey?, primaryKey?, keyOf?, keyOf?, hschema, hschema']
  exact hvalues t.primaryKey hkey

/-- Of records with the same keys, the same are dropped as repetitions. -/
theorem forall₂_dropRepeated {R : Model → Model → Prop}
    (hkey : ∀ m m', R m m' → m.primaryKey? = m'.primaryKey?) {models models' : List Model}
    (h : List.Forall₂ R models models') (seen : List String) :
    List.Forall₂ R (dropRepeated seen models) (dropRepeated seen models') := by
  induction h generalizing seen with
  | nil => exact .nil
  | @cons m m' rest rest' hm hrest ih =>
    rw [dropRepeated, dropRepeated, hkey m m' hm]
    cases m'.primaryKey? with
    | none =>
      -- From a record without a complete key on, nothing is dropped.
      exact .cons hm hrest
    | some values =>
      dsimp only
      split
      · exact ih seen
      · exact .cons hm (ih _)

end Model

/-- From the rows of one page with different fields, records are read that agree on the fields that
were asked for twice. -/
theorem Query.modelsOf_project (g : Catalog) (strict : Bool) {q q' : Query} {t : Schema}
    {P : String → Prop} {rows : List Json} {wanted wanted' : Option String}
    (hschema : q.schema = some t) (hschema' : q'.schema = some t) (hjoins : q'.joins = q.joins)
    (hindex : q'.index = q.index) (hdeclares : ∀ row ∈ rows, t.Declares row)
    (hP : ∀ field, P field → (∀ fields ∈ wanted, field ∈ pieces ',' fields) ∧
      ∀ fields ∈ wanted', field ∈ pieces ',' fields)
    (hkey : q.joins ≠ [] → q.index = none → ∀ field ∈ t.primaryKey, P field) :
    OutcomesAlike True (List.Forall₂ (Model.AgreeOn t P))
      (q.modelsOf g strict (rows.map (Store.project wanted)))
      (q'.modelsOf g strict (rows.map (Store.project wanted'))) := by
  have hread : ∀ wanted, Model.ofRows? g strict t (rows.map (Store.project wanted)) =
      .ok (rows.map fun row => Model.ofFields t (Store.project wanted row)) := by
    intro wanted
    rw [Model.ofRows?_of_declares g strict (Store.declares_of_mem_map_project hdeclares wanted),
      List.map_map]
    rfl
  have hagree : List.Forall₂ (Model.AgreeOn t P)
      (rows.map fun row => Model.ofFields t (Store.project wanted row))
      (rows.map fun row => Model.ofFields t (Store.project wanted' row)) := by
    rw [List.forall₂_map_left_iff, List.forall₂_map_right_iff, List.forall₂_same]
    intro row _
    refine ⟨(Model.ofFields_eq t _).1, (Model.ofFields_eq t _).1, fun field hfield => ?_⟩
    have hwanted := Model.get?_ofFields_project t row (hP field hfield).1
    exact hwanted.trans (Model.get?_ofFields_project t row (hP field hfield).2).symm
  unfold modelsOf
  rw [List.isEmpty_map, List.isEmpty_map]
  split
  · exact .nil
  rw [Query.schema?, Query.schema?, hschema, hschema']
  show OutcomesAlike True _ (q.readRows g strict t _) (q'.readRows g strict t _)
  rw [readRows, readRows, hread, hread, hjoins, hindex]
  show OutcomesAlike True _ (if _ then Model.distinct t _ else pure _)
    (if _ then Model.distinct t _ else pure _)
  split
  · rename_i hdrops
    obtain ⟨hjoined, hunkeyed⟩ := dropsRepeated_iff.mp hdrops
    rw [Model.distinct, Model.distinct]
    split
    · exact fun _ => rfl
    -- Repetitions are found by the primary key, in which the records agree.
    · refine Model.forall₂_dropRepeated (fun m m' hm => ?_) hagree []
      exact hm.primaryKey?_eq (hkey hjoined hunkeyed)
  · exact hagree

/-- Relations are loaded onto records that agree without a change of that, and without a failure if
there are none to load. -/
theorem Loader.KeepsContents.alike {σ : Type} {load : Loader σ} {exact : Prop} {t : Schema}
    {P : String → Prop} {models models' : List Model} (hload : load.KeepsContents)
    (hexact : exact → load = pure) (h : List.Forall₂ (Model.AgreeOn t P) models models')
    (w w' : World σ) :
    OutcomesAlike exact (List.Forall₂ (Model.AgreeOn t P)) (eval (load models) w).1
      (eval (load models') w').1 := by
  by_cases hnone : exact
  · rw [hexact hnone]
    exact h
  -- Relations are read by requests of their own, of which either run may fail alone.
  rcases hrun : eval (load models) w with ⟨e | loaded, after⟩
  · exact .error_left hnone e _
  rcases hrun' : eval (load models') w' with ⟨e | loaded', after'⟩
  · exact .error_right hnone _ e
  · show List.Forall₂ _ loaded loaded'
    rw [Model.forall₂_agreeOn_iff, hload models w after loaded hrun,
      hload models' w' after' loaded' hrun', ← Model.forall₂_agreeOn_iff]
    exact h

/-- Records that agree are read of two responses, if their rows hold such records. -/
theorem Cursor.materialize_alike {σ : Type} {conn : Connection σ} {load : Loader σ} {exact : Prop}
    {t : Schema} {P : String → Prop} {q q' : Query} {rows rows' : List Json}
    (hload : load.KeepsContents) (hexact : exact → load = pure)
    (hread : OutcomesAlike True (List.Forall₂ (Model.AgreeOn t P))
      (q.modelsOf conn.catalog conn.config.strict rows)
      (q'.modelsOf conn.catalog conn.config.strict rows'))
    (hrows : rows.isEmpty = rows'.isEmpty) (w w' : World σ) :
    OutcomesAlike exact (List.Forall₂ (Model.AgreeOn t P)) (eval (materialize conn load q rows) w).1
      (eval (materialize conn load q' rows') w').1 := by
  rw [eval_materialize_eq, eval_materialize_eq, hrows]
  generalize q.modelsOf conn.catalog conn.config.strict rows = outcome at hread ⊢
  generalize q'.modelsOf conn.catalog conn.config.strict rows' = outcome' at hread ⊢
  rcases outcome with e | models <;> rcases outcome' with e' | models'
  · exact fun _ => hread trivial
  · exact absurd trivial hread
  · exact absurd trivial hread
  · dsimp only
    split
    · exact hread
    · exact hload.alike hexact hread w w'

/-! ## All records -/

/-- Whether a query is a page of another, and the other query is that page for other fields. -/
def Query.SelectsOn (p : Query) (fields : List String) (q q' : Query) : Prop :=
  q.IsPageOf p ∧ q' = q.selecting fields

/-- What is assumed of a query that is read with two lists of fields: rows of a type are served,
which the query is keyed by no function of, and the fields that keys are read from are asked for
twice. -/
structure Query.SelectedTwice (conn : Connection Store) (s : Store.Settings)
    (collections : KeyMap (List Json)) (q : Query) (fields : List String) (t : Schema)
    (rows : List Json) : Prop where
  answer : conn.answer = Store.send s
  schema : q.schema = some t
  served : KeyMap.get? collections (Store.collectionPath (trim q.resourceName)) = some rows
  declares : ∀ row ∈ rows, t.Declares row
  index : ∀ index ∈ q.index, ∃ name, index = .field name
  keys : ∀ field ∈ q.keyFields conn.catalog t, q.AsksTwice fields field

namespace Query.SelectedTwice

variable {conn : Connection Store} {s : Store.Settings} {collections : KeyMap (List Json)}
  {q p : Query} {fields : List String} {t : Schema} {rows : List Json}

/-- The pages of a query are the same pages with other fields, and give the records the same keys.
-/
theorem queriesAlike (h : SelectedTwice conn s collections q fields t rows)
    (hp : q.prepare conn.catalog = .ok p) :
    QueriesAlike (p.SelectsOn fields) (Model.AgreeOn t (q.AsksTwice fields)) where
  moves := by
    rintro a b ⟨hpage, rfl⟩ size offset
    exact ⟨hpage.withWindow size offset, rfl⟩
  perPage := by
    rintro a b ⟨-, rfl⟩
    rfl
  key := by
    rintro a b ⟨hpage, rfl⟩ m m' hm
    have hindex : a.index = q.index := hpage.reads.2.2.1.trans (reads_of_prepare hp).2.1
    show a.index.map (·.key m) = a.index.map (·.key m')
    rw [hindex]
    cases hq : q.index with
    | none => rfl
    | some index =>
      obtain ⟨name, rfl⟩ := h.index index hq
      have hname : name ∈ q.keyFields conn.catalog t := by
        rw [keyFields, hq]
        exact List.mem_singleton_self name
      have hvalue : KeyMap.get? m.attributes name = KeyMap.get? m'.attributes name :=
        hm.2.2 name (h.keys name hname)
      rw [Option.map_some, Option.map_some, Index.key, Index.key, hvalue]

/-- Every page is read alike with both lists of fields. -/
theorem pagesAlike (h : SelectedTwice conn s collections q fields t rows)
    (hp : q.prepare conn.catalog = .ok p) :
    PagesAlike conn (World.Holds collections) (q.eager = []) (p.SelectsOn fields)
      (Model.AgreeOn t (q.AsksTwice fields)) (conn.loader q) (conn.loader q) where
  queries := h.queriesAlike hp
  keeps := Cursor.keeps_readPage h.answer (conn.loader_holds h.answer q)
  keeps' := Cursor.keeps_readPage h.answer (conn.loader_holds h.answer q)
  read := by
    rintro c c' ⟨hpage, hc'⟩ w w' hw hw'
    obtain ⟨hschema, hjoins, hindex, -⟩ := hpage.reads
    obtain ⟨hpschema, hpindex, -⟩ := reads_of_prepare hp
    have hdescribe := describe_selecting conn.catalog conn.config c.query fields
    cases hd : c.query.describe conn.catalog conn.config [] with
    | error e =>
      obtain ⟨w₁, -, hread⟩ := hw.outcome_readPage h.answer (conn.loader q) c
      obtain ⟨w₁', -, hread'⟩ := hw'.outcome_readPage h.answer (conn.loader q) c'
      rw [hread, hread', hc', hdescribe, hd]
      exact fun _ => rfl
    | ok d =>
      obtain ⟨huri, hfields⟩ := hpage.of_describe hp hd
      have hserved : KeyMap.get? collections (Store.collectionPath d.uri) = some rows := by
        rw [huri]
        exact h.served
      obtain ⟨d', hd', huri', hclauses⟩ : ∃ d' : Descriptor,
          c'.query.describe conn.catalog conn.config [] = .ok d' ∧ d'.uri = d.uri ∧
            d'.clauses = { d.clauses with fields := commaList fields } := by
        rw [hc', hdescribe, hd]
        exact ⟨_, rfl, rfl, rfl⟩
      obtain ⟨w₁, -, hread⟩ := hw.outcome_readPage_list h.answer (conn.loader q) hd hserved
      obtain ⟨w₁', -, hread'⟩ :=
        hw'.outcome_readPage_list h.answer (conn.loader q) hd' (huri'.symm ▸ hserved)
      have hquery' : (d'.request .get).query =
          { d.clauses with fields := commaList fields }.pairs := congrArg Clauses.pairs hclauses
      have hquery : (d.request .get).query = d.clauses.pairs := rfl
      obtain ⟨items, hitems, hrows, hrows', hinfo⟩ :=
        Store.list_withFields (s := s) rfl rfl hquery hquery'
      have hasked : ∀ field, q.AsksTwice fields field →
          (∀ names ∈ d.clauses.fields, field ∈ pieces ',' names) ∧
            ∀ names ∈ commaList fields, field ∈ pieces ',' names := by
        intro field hfield
        rw [hfields]
        exact hfield
      -- Where repetitions are dropped, the primary key is among the fields that keys are read from.
      have hkeys : c.query.joins ≠ [] → c.query.index = none →
          ∀ field ∈ t.primaryKey, q.AsksTwice fields field := by
        intro hjoined hunkeyed field hfield
        apply h.keys field
        have hsome : p.joins.isEmpty = false :=
          List.isEmpty_eq_false_iff.mpr fun hnone => hjoined (hjoins.trans hnone)
        rw [keyFields, ← hpindex, hindex.symm.trans hunkeyed, hp]
        dsimp only
        rw [hsome]
        exact hfield
      have hsame : c.query.schema = some t := hschema.trans (hpschema.trans h.schema)
      have hschema' : c'.query.schema = some t := by
        rw [hc']
        exact hsame
      have hjoins' : c'.query.joins = c.query.joins := by
        rw [hc']
        rfl
      have hindex' : c'.query.index = c.query.index := by
        rw [hc']
        rfl
      have hmodels := modelsOf_project conn.catalog conn.config.strict hsame hschema' hjoins'
        hindex' (fun row hrow => h.declares row (hitems row hrow)) hasked hkeys
      have hempty : (items.map (Store.project d.clauses.fields)).isEmpty =
          (items.map (Store.project (commaList fields))).isEmpty := by
        rw [List.isEmpty_map, List.isEmpty_map]
      rw [hread, hread', hrows, hrows', hinfo]
      exact (Cursor.materialize_alike (conn.loader_keepsContents q) conn.loader_eq_pure hmodels
        hempty w₁ w₁').map fun models models' hagree => ⟨rfl, hagree⟩

/-- All records are read alike with both lists of fields. -/
theorem allAlike (h : SelectedTwice conn s collections q fields t rows) {w w' : World Store}
    (hw : w.Holds collections) (hw' : w'.Holds collections) :
    OutcomesAlike (q.eager = []) (RecordSet.Alike (Model.AgreeOn t (q.AsksTwice fields)))
      (eval (conn.all q) w).1 (eval (conn.all (q.selecting fields)) w').1 := by
  have hselected := q.prepare_selecting conn.catalog fields
  show OutcomesAlike _ _ (eval (conn.allWith (conn.loader q) q) w).1
    (eval (conn.allWith (conn.loader q) (q.selecting fields)) w').1
  cases hp : q.prepare conn.catalog with
  | error e =>
    rw [hp] at hselected
    rw [conn.eval_allWith_of_error _ hp, conn.eval_allWith_of_error _ hselected]
    exact fun _ => rfl
  | ok p =>
    rw [hp] at hselected
    exact (h.pagesAlike hp).allWith hp hselected ⟨.inl rfl, rfl⟩ rfl rfl hw hw'

end Query.SelectedTwice

namespace Connection

variable {conn : Connection Store} {s : Store.Settings} {collections : KeyMap (List Json)}
  {q : Query} {fields : List String} {t : Schema} {rows : List Json} {w w' : World Store}

/-- The result of a query has the same keys in the same order whatever fields it asks for, as long
as it asks for those that keys are read from, and its records agree on the fields that are asked for
twice. Where relations are loaded by further requests, either run may fail alone for what these
meet. -/
theorem keys_of_selecting (h : q.SelectedTwice conn s collections fields t rows)
    (hw : w.Holds collections) (hw' : w'.Holds collections) :
    (q.eager = [] → (eval (conn.all q) w).1.map RecordSet.keys =
        (eval (conn.all (q.selecting fields)) w').1.map RecordSet.keys) ∧
      ∀ records records', (eval (conn.all q) w).1 = .ok records →
        (eval (conn.all (q.selecting fields)) w').1 = .ok records' →
          records.keys = records'.keys ∧
            List.Forall₂ (Model.AgreeOn t (q.AsksTwice fields)) records.models
              records'.models := by
  have halike := h.allAlike hw hw'
  refine ⟨halike.keys_eq, fun records records' hrun hrun' => ?_⟩
  rw [hrun, hrun'] at halike
  exact ⟨RecordSet.Alike.keys_eq halike, RecordSet.Alike.models halike⟩

/-- Songs with the album that each is on. -/
def song : Schema where
  typeName := "Song"
  fields := ["id", "title"]
  relations := [{ name := "album", target := "Album", multiple := false, link := [] }]

/-- The row of a song. -/
def songRow (id : Nat) (title : String) : Json := .object [("id", .nat id), ("title", .text title)]

/-- A song that is repeated with another title is dropped, and is so where only the number is asked
for. -/
theorem keys_of_selecting_repeated :
    let conn : Connection Store :=
      { catalog := [song], config := {}, auth := .none, answer := Store.send {}, pageBudget := 2 }
    let q : Query := (Query.of song).join Query.relationKind ["album"]
    let rows := [songRow 1 "first", songRow 1 "second", songRow 2 "third"]
    let w : World Store := { backend := Store.serve {} "songs" rows }
    (q.SelectedTwice conn {} w.backend.collections ["id"] song rows ∧
      w.Holds w.backend.collections) ∧
      (eval (conn.all (q.selecting ["id"])) w).1.map RecordSet.keys =
        .ok [.index 0, .index 1] ∧
      (q.eager = [] → (eval (conn.all q) w).1.map RecordSet.keys =
          (eval (conn.all (q.selecting ["id"])) w).1.map RecordSet.keys) ∧
        ∀ records records', (eval (conn.all q) w).1 = .ok records →
          (eval (conn.all (q.selecting ["id"])) w).1 = .ok records' →
            records.keys = records'.keys ∧
              List.Forall₂ (Model.AgreeOn song (q.AsksTwice ["id"])) records.models
                records'.models := by
  intro conn q rows w
  have hdeclares (id : Nat) (title : String) : song.Declares (songRow id title) :=
    ⟨_, rfl, by simp [song, Schema.hasField, Relation.responseKey]⟩
  have htwice : q.SelectedTwice conn {} w.backend.collections ["id"] song rows :=
    { answer := rfl
      schema := rfl
      served := by decide +kernel
      declares := by
        simp only [rows, List.forall_mem_cons, hdeclares, true_and]
        exact List.forall_mem_nil _
      index := by
        intro index hindex
        cases hindex
      keys := by
        intro field hfield
        obtain rfl : field = "id" := List.mem_singleton.mp hfield
        constructor
        · intro names hnames
          cases hnames
        · intro names hnames
          cases hnames
          decide }
  have hholds : w.Holds w.backend.collections := ⟨⟨rfl, rfl⟩, rfl, rfl⟩
  exact ⟨⟨htwice, hholds⟩, by decide +kernel, keys_of_selecting htwice hholds hholds⟩

/-- Songs that are keyed by a title that is not asked for are all keyed by the empty text, and a
song that is repeated is not dropped where the number is not asked for. -/
theorem keys_not_selected :
    let conn : Connection Store :=
      { catalog := [song], config := {}, auth := .none, answer := Store.send {}, pageBudget := 2 }
    let titled : Query := (Query.of song).indexBy (.field "title")
    let joined : Query := (Query.of song).join Query.relationKind ["album"]
    let rows := [songRow 1 "first", songRow 1 "second"]
    let w : World Store := { backend := Store.serve {} "songs" rows }
    (∀ row ∈ rows, song.Declares row) ∧
      (eval (conn.all titled) w).1.map RecordSet.keys = .ok [.named "first", .named "second"] ∧
      (eval (conn.all (titled.selecting ["id"])) w).1.map RecordSet.keys = .ok [.named ""] ∧
      (eval (conn.all joined) w).1.map RecordSet.keys = .ok [.index 0] ∧
      (eval (conn.all (joined.selecting ["title"])) w).1.map RecordSet.keys =
        .ok [.index 0, .index 1] := by
  intro conn titled joined rows w
  have hdeclares (id : Nat) (title : String) : song.Declares (songRow id title) :=
    ⟨_, rfl, by simp [song, Schema.hasField, Relation.responseKey]⟩
  refine ⟨?_, by decide +kernel, by decide +kernel, by decide +kernel, by decide +kernel⟩
  simp only [rows, List.forall_mem_cons, hdeclares, true_and]
  exact List.forall_mem_nil _

end Connection

end RestQuery
