import RestQuery.Proofs.Page.Hand
import RestQuery.Proofs.Page.Loading
import RestQuery.Proofs.Query.All

/-!
# All records of a query that joins relations

A backend that joins relations may repeat a record. Repetitions are dropped where the rows of a
response are read, so a page holds no two records of one key (`nextPage_apart`), up to the first
record without a complete key. `all` reads the pages one after another and puts them together
(`exists_calls_of_drain`), and nothing is dropped there: `all_apart` says that the records of one
page are apart, and `all_repeats_across_pages` that those of two pages need not be.
-/

namespace RestQuery

open Session

/-! ## Records that repeat -/

namespace Model

/-- Whether some records, if all of their keys are complete, are told apart by these. -/
def Apart (models : List Model) : Prop :=
  none ∉ keys models → ((keys models).map (Option.map distinctKey)).Nodup

/-- What is left of some records begins with records that are apart from one another and from those
seen before. -/
theorem dropRepeated_apart {seen : List String} {models : List Model}
    {found : List (Option (List Json))} (hbegins : found <+: keys (dropRepeated seen models))
    (hcomplete : none ∉ found) :
    (found.map (Option.map distinctKey)).Nodup ∧
      ∀ text ∈ seen, some text ∉ found.map (Option.map distinctKey) := by
  induction models generalizing seen found with
  | nil =>
    obtain rfl : found = [] := List.prefix_nil.mp hbegins
    exact ⟨List.nodup_nil, fun _ _ => List.not_mem_nil⟩
  | cons m rest ih =>
    unfold dropRepeated at hbegins
    cases hkey : m.primaryKey? with
    | none =>
      -- Nothing was dropped from here on, but there is a record without a complete key.
      simp only [hkey, keys, List.map_cons] at hbegins
      obtain rfl | ⟨others, rfl, -⟩ := List.prefix_cons_iff.mp hbegins
      · exact ⟨List.nodup_nil, fun _ _ => List.not_mem_nil⟩
      · exact absurd List.mem_cons_self hcomplete
    | some values =>
      simp only [hkey] at hbegins
      split at hbegins
      · exact ih hbegins hcomplete
      rename_i hfresh
      simp only [keys, List.map_cons, hkey] at hbegins
      obtain rfl | ⟨others, rfl, hothers⟩ := List.prefix_cons_iff.mp hbegins
      · exact ⟨List.nodup_nil, fun _ _ => List.not_mem_nil⟩
      obtain ⟨hnodup, hapart⟩ :=
        ih hothers fun hmem => hcomplete (List.mem_cons_of_mem _ hmem)
      refine ⟨List.nodup_cons.mpr ⟨hapart _ List.mem_cons_self, hnodup⟩, fun text htext hmem => ?_⟩
      rcases List.mem_cons.mp hmem with heq | hmem
      · obtain rfl : text = distinctKey values := Option.some.inj heq
        exact hfresh htext
      · exact hapart text (List.mem_cons_of_mem _ htext) hmem

end Model

/-- Where relations are joined, the records of a response are what is left without repetitions. -/
theorem Query.modelsOf_of_joins {g : Catalog} {strict : Bool} {q : Query} {rows : List Json}
    {read : List Model} (hjoins : q.joins ≠ []) (hindex : q.index = none)
    (h : q.modelsOf g strict rows = .ok read) :
    ∃ models, read = Model.dropRepeated [] models := by
  unfold modelsOf at h
  split at h
  · cases h
    exact ⟨[], rfl⟩
  obtain ⟨s, -, h⟩ := bind_eq_ok_iff.mp h
  obtain ⟨models, -, h⟩ := bind_eq_ok_iff.mp h
  rw [if_pos (dropsRepeated_iff.mpr ⟨hjoins, hindex⟩), Model.distinct] at h
  split at h
  · cases h
  · cases h
    exact ⟨models, rfl⟩

/-- What is kept of a page is its beginning. -/
theorem Cursor.keep_begins (c : Cursor) (models : List Model) : c.keep models <+: models := by
  unfold keep
  split
  · exact List.take_prefix _ _
  · exact List.prefix_refl _

namespace Connection

variable {σ : Type} {conn : Connection σ} {q : Query} {c c' : Cursor} {w w' : World σ}

/-! ## One page -/

/-- A page of a query that joins relations holds no two records of one key. -/
theorem nextPage_apart {page : List Model} (hjoins : c.query.joins ≠ [])
    (hindex : c.query.index = none)
    (h : (conn.nextPage c).run w = ((c', .ok (some page)), w')) : Model.Apart page := by
  obtain ⟨-, -, hnone, -⟩ | ⟨asked, response, models, w₁, hasked, -, hmodels, hdeliver⟩ :=
    nextPage_cases h
  · cases hnone
  obtain ⟨-, hasksJoins, hasksIndex, -⟩ := (Cursor.advance?_frame hasked).1.reads
  -- The records that were read are loaded onto, which leaves the keys alone.
  obtain ⟨read, hread, hkeys⟩ : ∃ read,
      asked.query.modelsOf conn.catalog conn.config.strict
        (response.rows conn.config.envelope) = .ok read ∧ Model.keys models = Model.keys read := by
    rw [Cursor.eval_materialize_eq] at hmodels
    cases hread : asked.query.modelsOf conn.catalog conn.config.strict
        (response.rows conn.config.envelope) with
    | error e =>
      rw [hread] at hmodels
      cases hmodels
    | ok read =>
      rw [hread] at hmodels
      dsimp only at hmodels
      refine ⟨read, rfl, ?_⟩
      split at hmodels
      · cases hmodels
        rfl
      · exact loader_keepsKeys conn c.query read _ _ _ hmodels
  obtain ⟨rows, rfl⟩ := Query.modelsOf_of_joins (hasksJoins ▸ hjoins) (hasksIndex ▸ hindex) hread
  have hpage : page = (asked.told conn response).keep models := by
    rw [← Cursor.getD_deliver, hdeliver]
    rfl
  have hbegins : Model.keys page <+: Model.keys (Model.dropRepeated [] rows) := by
    rw [← hkeys, hpage]
    exact (Cursor.keep_begins _ models).map _
  exact fun hcomplete => (Model.dropRepeated_apart hbegins hcomplete).1

/-- The pages that calls return have what every page has that a call on the query returns. -/
theorem Calls.forall_page {P : List Model → Prop} {results : List (Option (List Model))}
    (h : conn.Calls c w results c' w')
    (hP : ∀ c₁ w₁ c₂ w₂ page, c₁.query.IsPageOf c.query →
      (conn.nextPage c₁).run w₁ = ((c₂, .ok (some page)), w₂) → P page) :
    ∀ page, some page ∈ results → P page := by
  induction h with
  | nil => exact fun page hmem => absurd hmem List.not_mem_nil
  | call h hcall ih =>
    intro page hmem
    rcases List.mem_append.mp hmem with hmem | hmem
    · exact ih page hmem
    · obtain rfl := List.mem_singleton.mp hmem
      exact hP _ _ _ _ page h.frame.1 hcall

/-! ## All pages -/

/-- A loop over a cursor makes calls for pages until one returns none, and puts the pages together.
Some pages were read before, of which the last is in hand. -/
theorem exists_calls_of_drain {load : Loader σ} (hindex : c.query.index = none)
    (hload : ∀ c₁ : Cursor, c₁.query.IsPageOf c.query → conn.loader c₁.query = load)
    {budget : Nat} {pages : List (List Model)} {c₁ : Cursor} {w₁ : World σ}
    {done buffer : List Model} {records : RecordSet}
    (hcalls : conn.Calls c w (pages.map some) c₁ w₁) (hpages : done ++ buffer = pages.flatten)
    (h : eval ((c₁.holdingOnly buffer done.length).drain conn load (.numbered done) budget) w₁ =
      (.ok records, w')) :
    ∃ (pages : List (List Model)) (c' : Cursor),
      conn.Calls c w (pages.map some ++ [none]) c' w' ∧ records = .numbered pages.flatten := by
  induction budget generalizing pages c₁ w₁ done buffer with
  | zero => cases h
  | succ budget ih =>
    obtain ⟨-, -, hsame, -⟩ := hcalls.frame.1.reads
    have hhanded : (c₁.holdingOnly buffer done.length).handedOut =
        c₁.holdingOnly [] (done ++ buffer).length := by
      rw [List.length_append]
      rfl
    have hindex₁ : (c₁.holdingOnly buffer done.length).query.index = none := hsame.trans hindex
    rw [Cursor.eval_drain_succ hindex₁, hhanded, Cursor.run_nextPage_holdingOnly] at h
    have hnumbered := RecordSet.insertAll_numbered done buffer
    have hcall : conn.nextPage c₁ = c₁.nextPage conn load := by
      rw [nextPage, hload c₁ hcalls.frame.1]
    rcases hrun : (c₁.nextPage conn load).run w₁ with ⟨⟨next, e | _ | models⟩, w₂⟩
    · rw [hrun] at h
      cases h
    · rw [hrun] at h
      cases h
      refine ⟨pages, next, hcalls.call (hcall ▸ hrun), ?_⟩
      rw [← hpages, ← hnumbered]
      rfl
    · have hnext : conn.Calls c w ((pages ++ [models]).map some) next w₂ := by
        rw [List.map_append]
        exact hcalls.call (hcall ▸ hrun)
      have hread : done ++ buffer ++ models = (pages ++ [models]).flatten := by
        rw [List.flatten_append, ← hpages, List.flatten_singleton]
      have hrest : eval ((next.holdingOnly models (done ++ buffer).length).drain conn load
          (.numbered (done ++ buffer)) budget) w₂ = (.ok records, w') := by
        rw [← hnumbered]
        rw [hrun] at h
        exact h
      exact ih hnext hread hrest

/-- The records of a query that joins relations are those of its pages, put together, and those of
one page are told apart by their keys. -/
theorem all_apart {records : RecordSet} (hcursor : conn.cursor q = .ok c)
    (hjoins : c.query.joins ≠ []) (hindex : q.index = none)
    (hrun : eval (conn.all q) w = (.ok records, w')) :
    ∃ (pages : List (List Model)) (c' : Cursor),
      conn.Calls c w (pages.map some ++ [none]) c' w' ∧ records = .numbered pages.flatten ∧
        ∀ page ∈ pages, Model.Apart page := by
  obtain ⟨prepared, hprepare, hc⟩ := map_eq_ok_iff.mp hcursor
  obtain ⟨hschema, hpreparedIndex, heager⟩ := Query.reads_of_prepare hprepare
  have hindex₁ : c.query.index = none := by
    rw [← hc]
    exact hpreparedIndex.trans hindex
  -- The relations to load are those of the query, whatever page is asked for.
  have hload : ∀ c₁ : Cursor, c₁.query.IsPageOf c.query → conn.loader c₁.query = conn.loader q := by
    intro c₁ hpage
    obtain ⟨hschema₁, -, -, heager₁⟩ := hpage.reads
    rw [← hc] at hschema₁ heager₁
    unfold loader
    rw [hschema₁, hschema, heager₁, heager]
  have hcollect : eval (c.collect conn (conn.loader q)) w = (.ok records, w') := by
    have hlift : eval (liftM (Cursor.of conn.catalog q) : Session σ Cursor) w = (.ok c, w) := by
      rw [eval_lift]
      exact congrArg (·, w) hcursor
    rw [all, allWith, eval_bind_ok hlift] at hrun
    exact hrun
  -- Nothing was read before, and nothing is in hand.
  have hfresh : c.holdingOnly [] 0 = c := by rw [← hc]; rfl
  have hdrain : eval ((c.holdingOnly [] ([] : List Model).length).drain conn (conn.loader q)
      (.numbered []) conn.pageBudget) w = (.ok records, w') := hfresh.symm ▸ hcollect
  have hcalls : conn.Calls c w (([] : List (List Model)).map some) c w := .nil
  obtain ⟨pages, c', hcalls, hrecords⟩ :=
    exists_calls_of_drain hindex₁ hload hcalls (List.append_nil []) hdrain
  refine ⟨pages, c', hcalls, hrecords, fun page hpage => ?_⟩
  refine hcalls.forall_page (fun c₁ w₁ c₂ w₂ page hsame hcall => ?_) page
    (List.mem_append_left _ (List.mem_map_of_mem hpage))
  obtain ⟨-, hsameJoins, hsameIndex, -⟩ := hsame.reads
  exact nextPage_apart (hsameJoins ▸ hjoins) (hsameIndex.trans hindex₁) hcall

/-- Tracks with the album that each is on, which a backend expands. -/
def track : Schema where
  typeName := "Track"
  fields := ["id"]
  relations := [{ name := "album", target := "Album", multiple := false, link := [] }]

/-- The row of a track with an album. -/
def trackOn (id album : Nat) : Json :=
  .object [("id", .nat id), ("album", .object [("id", .nat album)])]

/-- A track that the backend repeats for its second album is dropped from a page of three rows. -/
theorem all_apart_one_page :
    let conn : Connection Store :=
      { catalog := [track, { typeName := "Album", fields := ["id"] }], config := {}, auth := .none
        answer := Store.send {}, pageBudget := 2 }
    let q : Query := (Query.of track).joinWith ["album"]
    let c : Cursor :=
      { query := { q with joins := [⟨Query.relationKind, ["album"]⟩], pending := [] }
        initial := ⟨none, none, none⟩ }
    let w : World Store :=
      { backend := Store.serve {} "tracks" [trackOn 1 5, trackOn 1 6, trackOn 2 5] }
    ∃ records w', (conn.cursor q = .ok c ∧ c.query.joins ≠ [] ∧ q.index = none ∧
        eval (conn.all q) w = (.ok records, w')) ∧
      Model.keys records.models = [some [.nat 1], some [.nat 2]] ∧
      ∃ (pages : List (List Model)) (c' : Cursor),
        conn.Calls c w (pages.map some ++ [none]) c' w' ∧ records = .numbered pages.flatten ∧
          ∀ page ∈ pages, Model.Apart page := by
  intro conn q c w
  have hcursor : conn.cursor q = .ok c := rfl
  have hcomputed : (eval (conn.all q) w).1.map (Model.keys ·.models) =
      .ok [some [.nat 1], some [.nat 2]] := by decide +kernel
  obtain ⟨records, hrecords, hkeys⟩ := map_eq_ok_iff.mp hcomputed
  have hrun : eval (conn.all q) w = (.ok records, (eval (conn.all q) w).2) := by rw [← hrecords]
  exact ⟨records, _, ⟨hcursor, nofun, rfl, hrun⟩, hkeys, all_apart hcursor nofun rfl hrun⟩

/-- If a page ends between the two rows of the track, both are kept. -/
theorem all_repeats_across_pages :
    let conn : Connection Store :=
      { catalog := [track, { typeName := "Album", fields := ["id"] }], config := {}, auth := .none
        answer := Store.send {}, pageBudget := 3 }
    let q : Query := ((Query.of track).joinWith ["album"]).pageSize 1
    let rows := [trackOn 1 5, trackOn 1 6]
    let w : World Store := { backend := Store.serve {} "tracks" rows }
    (∃ prepared, q.prepare conn.catalog = .ok prepared ∧ prepared.joins ≠ []) ∧ q.index = none ∧
      track.primaryKey ≠ [] ∧
      (∀ row ∈ rows, ∀ field ∈ track.primaryKey, ∃ id, row.member? field = some (.nat id)) ∧
      ∃ records, (eval (conn.all q) w).1 = .ok records ∧
        Model.keys records.models = [some [.nat 1], some [.nat 1]] := by
  intro conn q rows w
  have hcomputed : (eval (conn.all q) w).1.map (Model.keys ·.models) =
      .ok [some [.nat 1], some [.nat 1]] := by decide +kernel
  have hrows : ∀ row ∈ rows, ∀ field ∈ track.primaryKey,
      ∃ id, row.member? field = some (.nat id) := by
    have hid (album : Nat) : ∀ field ∈ track.primaryKey,
        ∃ id, (trackOn 1 album).member? field = some (.nat id) := by
      intro field hfield
      obtain rfl := List.mem_singleton.mp hfield
      exact ⟨1, rfl⟩
    exact List.forall_mem_cons.mpr ⟨hid 5, List.forall_mem_cons.mpr ⟨hid 6, nofun⟩⟩
  exact ⟨⟨_, rfl, nofun⟩, rfl, nofun, hrows, map_eq_ok_iff.mp hcomputed⟩

end Connection

end RestQuery
