import RestQuery.Proofs.Connection.Reading
import RestQuery.Proofs.Model.History
import RestQuery.Proofs.Model.Writes

/-!
# Records that are put into a store

A record is inserted by a post of the attributes that differ from those that the server is known to
hold. A store puts a row of just these behind the rows of the collection, with the next number as
`id` if there is none among them. `Model.StoredAs` says what such a row holds, and what the record
is afterwards.

A record that the server is not known to hold differs in all its attributes, so all of it is stored.
Of a record that was read, what was not changed since is left out, and yet the record passes for
stored as it is: `insertModel_stores` says exactly which records are stored as a whole.
-/

namespace RestQuery

open Session

namespace Store

variable {s : Settings} {collections : KeyMap (List Json)} {request : Request}

/-- A row that is posted to a collection is put behind its rows. -/
theorem answerTo_post {rows : List Json} (hpost : request.method = .post)
    (hrows : KeyMap.get? collections (collectionPath request.path) = some rows) :
    answerTo s collections request = { status := 201, body := newRow rows request.body } ∧
      collectionsAfter s collections request =
        KeyMap.insert collections (collectionPath request.path)
          (rows ++ [newRow rows request.body]) := by
  unfold answerTo collectionsAfter
  rw [handle_collection hrows]
  simp only [onCollection, hpost]
  exact ⟨trivial, trivial⟩

/-- Where no collection is served, a post fails and leaves the collections as they are. -/
theorem check_answerTo_post (hpost : request.method = .post)
    (hnone : KeyMap.get? collections (collectionPath request.path) = none) :
    (∃ e, (answerTo s collections request).check = .error e) ∧
      collectionsAfter s collections request = collections := by
  have hhandled := handled s { collections := collections } request
  unfold answerTo collectionsAfter
  generalize handle s { collections := collections } request = outcome at hhandled ⊢
  cases hhandled with
  | collection hrows =>
    rw [hnone] at hrows
    cases hrows
  | row haddresses hfirst =>
    simp only [onItem, hpost]
    exact ⟨⟨_, rfl⟩, trivial⟩
  | missing => exact ⟨⟨_, rfl⟩, rfl⟩

/-- The row for an object has its members, and the next number as `id` if it has no other. -/
theorem member?_newRow (rows : List Json) (members : KeyMap Json) (name : String) :
    (newRow rows (some (.object members))).member? name =
      (KeyMap.get? members name).or (if name = "id" then some (.nat (nextId rows)) else none) := by
  unfold newRow KeyMap.contains
  dsimp only [Option.getD_some]
  split
  · rename_i hid
    obtain ⟨id, hid⟩ := Option.isSome_iff_exists.mp hid
    by_cases hname : name = "id"
    · rw [hname, if_pos rfl, Json.member?, hid, Option.some_or]
    · rw [if_neg hname, Option.or_none, Json.member?]
  · rename_i hid
    have hnone : KeyMap.get? members "id" = none := Option.not_isSome_iff_eq_none.mp hid
    rw [Json.member?, KeyMap.get?_insert]
    by_cases hname : name = "id"
    · rw [hname, if_pos rfl, if_pos rfl, hnone, Option.none_or]
    · rw [if_neg (Ne.symm hname), if_neg hname, Option.or_none]

/-- Where there is a number after the greatest, that is the next. -/
theorem nextId_eq {rows : List Json} (h : greatestId rows < Text.maxWord64) :
    nextId rows = greatestId rows + 1 := Nat.mod_eq_of_lt (Nat.succ_lt_succ h)

/-- The row for an object whose members are in order has its members in order. -/
theorem exists_newRow (rows : List Json) {members : KeyMap Json} (h : KeyMap.Ordered members) :
    ∃ stored, newRow rows (some (.object members)) = .object stored ∧ KeyMap.Ordered stored := by
  unfold newRow
  dsimp only [Option.getD_some]
  split
  · exact ⟨members, rfl, h⟩
  · exact ⟨_, rfl, h.insert _ _⟩

end Store

/-- Whether a record can be put behind some rows: it has an `id` that differs, or there is a number
greater than those of the rows. -/
def Model.Numbered (m : Model) (rows : List Json) : Prop :=
  (∃ value, m.Differs "id" value) ∨ Store.greatestId rows < Text.maxWord64

/-- Whether a row has all attributes of a record, with the values that they have. -/
def Model.WholeIn (m : Model) (row : Json) : Prop :=
  ∀ name value, KeyMap.get? m.attributes name = some value → row.member? name = some value

/-- What a store holds of a record after it was put behind some rows, and what the record is then.
-/
structure Model.StoredAs (m : Model) (rows : List Json) (row : Json) (m' : Model) : Prop where
  /-- The row has the attributes that differ, and the number after the greatest as `id` if this does
  not. -/
  member : ∀ name value, row.member? name = some value ↔
    m.Differs name value ∨
      (name = "id" ∧ (∀ other, ¬ m.Differs "id" other) ∧
        value = .nat (Store.greatestId rows + 1))
  /-- The record takes over the row, and keeps what the row does not have. -/
  taken : ∀ name,
    KeyMap.get? m'.attributes name = (row.member? name).or (KeyMap.get? m.attributes name)
  /-- The record passes for stored as it is. -/
  clean : m'.dirty = []

namespace Model

variable {m m' : Model} {name : String} {value : Json} {rows : List Json} {row : Json}

/-- An attribute that differs has one value. -/
theorem Differs.value_eq {other : Json} (h : m.Differs name value)
    (hother : KeyMap.get? m.attributes name = some other) : value = other :=
  Option.some.inj (h.1.symm.trans hother)

/-- Every attribute of a new record differs. -/
theorem differs_of_isNew (hnew : m.isNew) (h : KeyMap.get? m.attributes name = some value) :
    m.Differs name value := by
  have hsnapshot : m.snapshot = none := Option.isNone_iff_eq_none.mp hnew
  refine ⟨h, fun held hheld => ?_⟩
  rw [heldValue?, hsnapshot] at hheld
  cases hheld

/-- The row that is stored for a record has the attributes that differ, and an `id`. -/
theorem member?_newRow_dirty (hm : KeyMap.Ordered m.attributes) (rows : List Json) (name : String)
    (value : Json) :
    (Store.newRow rows (some (.object m.dirty))).member? name = some value ↔
      m.Differs name value ∨
        (name = "id" ∧ (∀ other, ¬ m.Differs "id" other) ∧ value = .nat (Store.nextId rows)) := by
  have hdirty := get?_dirty hm name
  rw [Store.member?_newRow, Option.or_eq_some_iff, hdirty]
  refine or_congr_right ?_
  rw [Option.eq_none_iff_forall_ne_some]
  by_cases hname : name = "id"
  · subst hname
    simp only [ne_eq, hdirty, if_true, Option.some.injEq, true_and]
    exact and_congr_right fun _ => eq_comm
  · simp [hname]

/-- What is stored for a record that is put behind some rows. -/
theorem storedAs_newRow (hm : KeyMap.Ordered m.attributes) (hid : m.schema.hasField "id")
    (hnumber : m.Numbered rows) :
    m.StoredAs rows (Store.newRow rows (some (.object m.dirty)))
      (m.absorb (Store.newRow rows (some (.object m.dirty)))).markClean := by
  have hmember (name : String) (value : Json) :
      (Store.newRow rows (some (.object m.dirty))).member? name = some value ↔
        m.Differs name value ∨
          (name = "id" ∧ (∀ other, ¬ m.Differs "id" other) ∧
            value = .nat (Store.greatestId rows + 1)) := by
    rw [member?_newRow_dirty hm rows]
    -- The number is needed only where no other one is posted.
    refine or_congr_right (and_congr_right fun _ => and_congr_right fun hnone => ?_)
    obtain ⟨other, hother⟩ | hlt := hnumber
    · exact absurd hother (hnone other)
    · rw [Store.nextId_eq hlt]
  obtain ⟨stored, hrow, hstored⟩ := Store.exists_newRow rows (ordered_dirty hm)
  generalize Store.newRow rows (some (.object m.dirty)) = row at hrow hmember ⊢
  refine ⟨hmember, fun name => ?_, dirty_markClean (ordered_absorb hm row)⟩
  show KeyMap.get? (m.absorb row).attributes name = _
  subst hrow
  rw [m.get?_absorb hstored.nodup name]
  split
  · rfl
  · -- What is not declared cannot be taken over, but the record has that attribute already.
    rename_i hdeclared
    have hagrees : ∀ value, (Json.object stored).member? name = some value →
        KeyMap.get? m.attributes name = some value := by
      intro value hvalue
      rcases (hmember name value).mp hvalue with hdiffers | ⟨rfl, -⟩
      · exact hdiffers.1
      · exact absurd hid hdeclared
    cases hvalue : (Json.object stored).member? name with
    | none => exact Option.none_or.symm
    | some value => exact hagrees value hvalue

namespace StoredAs

variable (h : m.StoredAs rows row m')

include h

/-- Every row that is stored has an `id`. -/
theorem exists_id : ∃ value, row.member? "id" = some value := by
  by_cases hother : ∃ other, m.Differs "id" other
  · obtain ⟨other, hother⟩ := hother
    exact ⟨other, (h.member "id" other).mpr (.inl hother)⟩
  · exact ⟨_, (h.member "id" _).mpr (.inr ⟨rfl, not_exists.mp hother, rfl⟩)⟩

/-- The row has all attributes that the record has afterwards exactly if all but the `id`
differed. -/
theorem wholeIn_iff : m'.WholeIn row ↔
    ∀ name value, name ≠ "id" → KeyMap.get? m.attributes name = some value →
      m.Differs name value := by
  constructor
  · intro hwhole name value hname hvalue
    have hstays : row.member? name ≠ none := by
      intro hnone
      have hafter := h.taken name
      rw [hnone, Option.none_or, hvalue] at hafter
      rw [hwhole name value hafter] at hnone
      cases hnone
    obtain ⟨other, hother⟩ := Option.ne_none_iff_exists'.mp hstays
    have hdiffers : m.Differs name other :=
      ((h.member name other).mp hother).resolve_right fun hid => hname hid.1
    rw [← hdiffers.value_eq hvalue]
    exact hdiffers
  · intro hdiffers name value hafter
    rw [h.taken name, Option.or_eq_some_iff] at hafter
    rcases hafter with hhas | ⟨hnone, hvalue⟩
    · exact hhas
    · have hname : name ≠ "id" := by
        rintro rfl
        obtain ⟨id, hid⟩ := h.exists_id
        rw [hnone] at hid
        cases hid
      exact (h.member name value).mpr (.inl (hdiffers name value hname hvalue))

/-- The row has all attributes that the record had before exactly if each of them differed, but for
an `id` that is the number after the greatest. -/
theorem wholeIn_before_iff : m.WholeIn row ↔
    ∀ name value, KeyMap.get? m.attributes name = some value →
      m.Differs name value ∨ (name = "id" ∧ value = .nat (Store.greatestId rows + 1)) := by
  constructor
  · intro hwhole name value hvalue
    have hhas := (h.member name value).mp (hwhole name value hvalue)
    exact hhas.imp_right fun hid => ⟨hid.1, hid.2.2⟩
  · intro hdiffers name value hvalue
    rcases hdiffers name value hvalue with hdiffer | ⟨rfl, hnext⟩
    · exact (h.member name value).mpr (.inl hdiffer)
    · by_cases hother : ∃ other, m.Differs "id" other
      · obtain ⟨other, hother⟩ := hother
        rw [← hother.value_eq hvalue]
        exact (h.member "id" other).mpr (.inl hother)
      · exact (h.member "id" value).mpr (.inr ⟨rfl, not_exists.mp hother, hnext⟩)

/-- A record that was new is stored as a whole. -/
theorem wholeIn_of_isNew (hnew : m.isNew) : m.WholeIn row ∧ m'.WholeIn row :=
  ⟨h.wholeIn_before_iff.mpr fun _ _ hvalue => .inl (differs_of_isNew hnew hvalue),
    h.wholeIn_iff.mpr fun _ _ _ hvalue => differs_of_isNew hnew hvalue⟩

end StoredAs

end Model

namespace Connection

variable {conn : Connection Store} {s : Store.Settings} {m : Model} {w : World Store}

/-- What is posted of a record. -/
theorem eval_postModel {σ : Type} (conn : Connection σ) (m : Model) (w : World σ) :
    ∃ request : Request, request.method = .post ∧ request.path = Text.trim m.schema.resourcePath ∧
      request.body = some (.object m.dirty) ∧
      eval (conn.postModel m) w = eval (conn.execute request) { w with asked := w.asked + 1 } := by
  obtain ⟨c, hc, huri⟩ := eval_modelCommand conn m .insert w
  refine ⟨{ method := .post, path := c.descriptor.uri, headers := c.descriptor.headers
            body := some (.object m.dirty) }, rfl, huri, rfl, ?_⟩
  rw [postModel, eval_bind_ok hc, insert]

/-- Over a store that nothing is queued for, a post is answered by it. -/
theorem eval_postModel_live (hanswer : conn.answer = Store.send s)
    (hqueued : w.backend.queued = []) (hlive : w.cancelled = false) (m : Model) :
    ∃ (request : Request) (w' : World Store), request.method = .post ∧
      request.path = Text.trim m.schema.resourcePath ∧ request.body = some (.object m.dirty) ∧
      eval (conn.postModel m) w =
        ((Store.answerTo s w.backend.collections request).check, w') ∧
      w'.backend.collections = Store.collectionsAfter s w.backend.collections request := by
  obtain ⟨request, hpost, hpath, hbody, hrun⟩ := eval_postModel conn m w
  obtain ⟨w', heval, -, hafter, -⟩ :=
    Store.eval_execute hanswer (w := { w with asked := w.asked + 1 }) hlive hqueued request
  exact ⟨request, w', hpost, hpath, hbody, hrun.trans heval, hafter⟩

/-- A cancelled insertion fails, and changes nothing. -/
theorem run_insert_of_cancelled (conn : Connection Store) (m : Model)
    (hcancelled : w.cancelled = true) :
    ∃ w', (m.insert conn).run w = ((m, .error .cancelled), w') ∧
      w'.backend.collections = w.backend.collections := by
  obtain ⟨request, -, -, -, hrun⟩ := eval_postModel conn m w
  obtain ⟨asked, heval⟩ := eval_execute_of_cancelled conn request
    (w := { w with asked := w.asked + 1 }) hcancelled
  rw [run_insert, hrun, heval]
  exact ⟨_, rfl, rfl⟩

/-- Over a store, a record is put into its collection if this is served and the connection is not
cancelled, and else the record is handed back as it was and nothing is changed. The row that is
stored has the attributes of the record that differ from those that the server is known to hold: all
of a new record, and of a record that was read all attributes exactly if each was changed, but for
an `id` that is the number after the greatest. -/
theorem insertModel_stores (hanswer : conn.answer = Store.send s)
    (hqueued : w.backend.queued = []) (hm : KeyMap.Ordered m.attributes)
    (hid : m.schema.hasField "id") :
    let path := Store.collectionPath (Text.trim m.schema.resourcePath)
    (w.cancelled = false → ∀ rows, KeyMap.get? w.backend.collections path = some rows →
      m.Numbered rows →
      ∃ row m' w', (m.insert conn).run w = ((m', .ok ()), w') ∧
        w'.backend.collections = KeyMap.insert w.backend.collections path (rows ++ [row]) ∧
        m.StoredAs rows row m' ∧
        (m'.WholeIn row ↔ ∀ name value, name ≠ "id" →
          KeyMap.get? m.attributes name = some value → m.Differs name value) ∧
        (m.WholeIn row ↔ ∀ name value, KeyMap.get? m.attributes name = some value →
          m.Differs name value ∨ (name = "id" ∧ value = .nat (Store.greatestId rows + 1))) ∧
        (m.isNew → m.WholeIn row ∧ m'.WholeIn row)) ∧
      (w.cancelled = true ∨ KeyMap.get? w.backend.collections path = none →
        ∃ e w', (m.insert conn).run w = ((m, .error e), w') ∧
          w'.backend.collections = w.backend.collections) := by
  intro path
  refine ⟨fun hlive rows hrows hnumber => ?_, fun hfails => ?_⟩
  · obtain ⟨request, w', hpost, hpath, hbody, heval, hafter⟩ :=
      eval_postModel_live hanswer hqueued hlive m
    have hserved : Store.collectionPath request.path = path := congrArg Store.collectionPath hpath
    obtain ⟨hreply, hstore⟩ := Store.answerTo_post (s := s) hpost (hserved ▸ hrows)
    rw [hbody, hserved] at hstore
    rw [hbody] at hreply
    have hstored := Model.storedAs_newRow hm hid hnumber
    refine ⟨_, _, w', ?_, hafter.trans hstore, hstored, hstored.wholeIn_iff,
      hstored.wholeIn_before_iff, hstored.wholeIn_of_isNew⟩
    rw [run_insert, heval, hreply]
    rfl
  · by_cases hlive : w.cancelled = true
    · obtain ⟨w', heval, hstore⟩ := run_insert_of_cancelled conn m hlive
      exact ⟨.cancelled, w', heval, hstore⟩
    · obtain ⟨request, w', hpost, hpath, -, heval, hafter⟩ :=
        eval_postModel_live hanswer hqueued (Bool.not_eq_true _ ▸ hlive) m
      have hserved : Store.collectionPath request.path = path :=
        congrArg Store.collectionPath hpath
      have hnone := hfails.resolve_left hlive
      obtain ⟨⟨e, hreply⟩, hstore⟩ := Store.check_answerTo_post (s := s) hpost (hserved ▸ hnone)
      refine ⟨e, w', ?_, hafter.trans hstore⟩
      rw [run_insert, heval, hreply]

/-- Of a track that was read and given another title, only the title is stored, under a new `id`:
the artist is lost. -/
theorem insertModel_stores_edited :
    let track : Schema := { typeName := "Track", fields := ["id", "title", "artist"] }
    let stored : Json :=
      .object [("artist", .text "anon"), ("id", .nat 7), ("title", .text "first")]
    let read := Model.ofFields track stored
    let conn : Connection Store :=
      { catalog := [track], config := {}, auth := .none, answer := Store.send {}, pageBudget := 1 }
    let m : Model := { read with
      attributes := KeyMap.insert read.attributes "title" (.text "second") }
    let w : World Store := { backend := Store.serve {} "tracks" [] }
    (w.backend.queued = [] ∧ KeyMap.Ordered m.attributes ∧ m.schema.hasField "id" ∧
      w.cancelled = false ∧ m.Numbered []) ∧
      ∃ row m' w', (m.insert conn).run w = ((m', .ok ()), w') ∧
        Store.rows w'.backend "tracks" = [row] ∧ m.StoredAs [] row m' ∧ ¬ m'.WholeIn row ∧
        ¬ m.WholeIn row := by
  intro track stored read conn m w
  have hread : KeyMap.Ordered read.attributes := by
    rw [show read.attributes = _ from (Model.ofFields_eq track stored).2.1]
    exact KeyMap.ordered_ofEntries _
  have hm : KeyMap.Ordered m.attributes := hread.insert "title" (.text "second")
  have hid : m.schema.hasField "id" := by decide +kernel
  have hanswer : conn.answer = Store.send {} := rfl
  have hqueued : w.backend.queued = [] := rfl
  have hnumber : m.Numbered [] := .inr (by decide)
  obtain ⟨hstores, -⟩ := insertModel_stores hanswer hqueued hm hid
  obtain ⟨row, m', w', heval, hrows, hstored, hwhole, hbefore, -⟩ :=
    hstores rfl [] (by decide +kernel) hnumber
  -- The artist is as it was read, so it does not differ.
  have hsame : ¬ m.Differs "artist" (.text "anon") := fun hdiffers =>
    absurd (hdiffers.2 (.text "anon") (by decide +kernel)) (by decide +kernel)
  have hartist : KeyMap.get? m.attributes "artist" = some (.text "anon") := by decide +kernel
  refine ⟨⟨rfl, hm, hid, rfl, hnumber⟩, row, m', w', heval, ?_, hstored, fun h => ?_, fun h => ?_⟩
  · rw [Store.rows, hrows, KeyMap.get?_insert, if_pos (by decide +kernel)]
    rfl
  · exact hsame (hwhole.mp h "artist" (.text "anon") (by decide) hartist)
  · exact hsame ((hbefore.mp h "artist" (.text "anon") hartist).resolve_right (by simp))

end Connection

end RestQuery
