import RestQuery.Proofs.Connection.Item
import RestQuery.Proofs.Model.Writes
import RestQuery.Proofs.Text.Pieces

/-!
# Records that share a path

A record is written under the path of its key, and a key of several values is their texts with
commas between them. The segment of a path is read back as the key that it was made of, commas
included, so two records have one path exactly if their keys are one text
(`Key.segment_injective`). A comma is not escaped, whether it stands between two values or within
one: the text of a key tells no more than the pieces between its commas (`Key.text_eq_iff`), and
`Connection.writes_collide_iff` says that the writes of two records go to one path exactly if these
are the same. Where commas occur at one place of the keys only, the pieces tell the values
(`Key.eq_of_parts_eq`), so that records with different keys are written under different paths.
-/

namespace RestQuery

open Session Text

namespace Key

/-! ## The text of a key -/

/-- A segment tells the key. -/
theorem segment_injective {key key' : String} (h : segment key = segment key') : key = key' := by
  rw [← percentDecode_segment key, h, percentDecode_segment]

/-- The pieces between the commas of a key of some values. -/
def parts (values : List Json) : List String :=
  values.flatMap fun v => pieces ',' v.keyText

/-- The text of a key has the pieces of its values. -/
theorem pieces_text {values : List Json} (h : values ≠ []) :
    pieces ',' (text values) = parts values := by
  rw [text, pieces_intercalate (by simpa using h), List.flatMap_map]
  rfl

/-- Two keys are one text exactly if they have the same pieces. -/
theorem text_eq_iff {values values' : List Json} (h : values ≠ []) (h' : values' ≠ []) :
    text values = text values' ↔ parts values = parts values' := by
  rw [← pieces_text h, ← pieces_text h']
  exact ⟨congrArg _, pieces_injective⟩

/-- Whether no value of a key has a comma in its text, unless it stands at a given place. -/
def CommasOnlyAt (place : Nat) (values : List Json) : Prop :=
  ∀ i v, i ≠ place → values[i]? = some v → ',' ∉ v.keyText.toList

theorem CommasOnlyAt.tail {place : Nat} {v : Json} {rest : List Json}
    (h : CommasOnlyAt (place + 1) (v :: rest)) : CommasOnlyAt place rest :=
  fun i _ hi hv => h (i + 1) _ (fun heq => hi (Nat.succ.inj heq)) hv

/-- A value without a comma is one piece. -/
theorem pieces_of_not_mem {v : Json} (h : ',' ∉ v.keyText.toList) :
    pieces ',' v.keyText = [v.keyText] := by
  rw [pieces, piecesOf_of_not_mem h, List.map_singleton, String.ofList_toList]

/-- The pieces of values without a comma are the values. -/
theorem parts_of_not_mem {values : List Json} (h : ∀ v ∈ values, ',' ∉ v.keyText.toList) :
    parts values = values.map Json.keyText := by
  induction values with
  | nil => rfl
  | cons v rest ih =>
    obtain ⟨hv, hrest⟩ := List.forall_mem_cons.mp h
    rw [parts, List.flatMap_cons, ← parts, pieces_of_not_mem hv, ih hrest]
    rfl

/-- Where commas occur at one place only, the pieces of a key tell its values. -/
theorem eq_of_parts_eq {place : Nat} {values values' : List Json}
    (hlength : values.length = values'.length) (h : CommasOnlyAt place values)
    (h' : CommasOnlyAt place values') (hparts : parts values = parts values') :
    values.map Json.keyText = values'.map Json.keyText := by
  induction values generalizing values' place with
  | nil =>
    obtain rfl := List.length_eq_zero_iff.mp hlength.symm
    rfl
  | cons v rest ih =>
    obtain ⟨v', rest', rfl⟩ : ∃ v' rest', values' = v' :: rest' :=
      List.exists_cons_of_length_eq_add_one hlength.symm
    have hrests : rest.length = rest'.length := Nat.succ.inj hlength
    simp only [parts, List.flatMap_cons] at hparts
    rw [← parts, ← parts] at hparts
    cases place with
    | zero =>
      -- The values behind the first are their own pieces, so as many pieces are left for it.
      have hbehind : ∀ {v : Json} {rest : List Json}, CommasOnlyAt 0 (v :: rest) →
          parts rest = rest.map Json.keyText := by
        intro v rest hcommas
        refine parts_of_not_mem fun u hu => ?_
        obtain ⟨i, hi⟩ := List.mem_iff_getElem?.mp hu
        exact hcommas (i + 1) u (Nat.succ_ne_zero i) hi
      rw [hbehind h, hbehind h'] at hparts
      obtain ⟨hfirst, hrest⟩ := List.append_inj' hparts (by simp [hrests])
      rw [List.map_cons, List.map_cons, pieces_injective hfirst, hrest]
    | succ place =>
      have hv := pieces_of_not_mem (h 0 v (Nat.succ_ne_zero place).symm rfl)
      have hv' := pieces_of_not_mem (h' 0 v' (Nat.succ_ne_zero place).symm rfl)
      rw [hv, hv'] at hparts
      obtain ⟨hfirst, hrest⟩ := List.cons.inj hparts
      rw [List.map_cons, List.map_cons, hfirst, ih hrests h.tail h'.tail hrest]

end Key

/-! ## The paths of two records -/

/-- The values of the key under which the server holds a record, else of the key that it has. -/
def Model.heldKey? (m : Model) : Option (List Json) :=
  keyOf? m.schema (m.snapshot.getD m.attributes)

namespace Connection

variable {σ : Type} {conn : Connection σ}

/-- Whether the writes of a record go to a path, and to no other. -/
structure WritesTo (conn : Connection σ) (m : Model) (path : String) : Prop where
  update : (conn.updateModel m).Sends (·.path = path)
  delete : (conn.deleteModel m).Sends (·.path = path)
  /-- Unless the connection is cancelled, they reach it: a removal always, and a change where there
  is one. -/
  reached : ∀ w : World σ, w.cancelled = false →
    w.sent.length < (eval (conn.deleteModel m) w).2.sent.length ∧
      (m.dirty ≠ [] → w.sent.length < (eval (conn.updateModel m) w).2.sent.length)

/-- A write under a key sends something unless the connection is cancelled. -/
theorem sent_lt_writeBy {m : Model} (send : Command → String → Session σ Response)
    (hsent : ∀ c key (w : World σ), w.cancelled = false →
      w.sent.length < (eval (send c key) w).2.sent.length)
    {key : String} (hkey : m.keySegment? = some key) (action : Action) {w : World σ}
    (hw : w.cancelled = false) :
    w.sent.length < (eval (conn.writeBy m action send) w).2.sent.length := by
  obtain ⟨c, -, hrun⟩ := eval_writeBy conn send hkey action w
  rw [hrun]
  exact hsent c key { w with asked := w.asked + 1 } hw

/-- Under a key, what has changed is put unless the connection is cancelled. -/
theorem sent_lt_putModel (conn : Connection σ) {m : Model} {key : String}
    (hkey : m.keySegment? = some key) {w : World σ} (hw : w.cancelled = false) :
    w.sent.length < (eval (conn.putModel m) w).2.sent.length :=
  sent_lt_writeBy (fun c key => conn.update c (some key) (.object m.dirty))
    (fun _ _ _ hw => sent_lt_execute conn _ hw) hkey .update hw

/-- A record with a key that has a character is written under the path of that key. -/
theorem writesTo_itemPath (conn : Connection σ) {m : Model} {key : String}
    (hkey : m.keySegment? = some key) (hne : key ≠ "") :
    conn.WritesTo m (Command.itemPath (trim m.schema.resourcePath) key) := by
  refine ⟨?_, (conn.addressed_deleteModel.item key hkey hne).2,
    fun w hw => ⟨?_, fun hdirty => ?_⟩⟩
  · by_cases hdirty : m.dirty = []
    · exact sends_of_sent_eq fun w => by rw [conn.eval_updateModel_of_clean hdirty]
    · exact ((conn.addressed_updateModel hdirty).item key hkey hne).2
  · rw [eval_deleteModel]
    exact sent_lt_writeBy (fun c key => conn.remove c (some key))
      (fun _ _ _ hw => sent_lt_execute conn _ hw) hkey .delete hw
  · rw [conn.eval_updateModel hdirty]
    exact conn.sent_lt_putModel hkey hw

/-- The writes of two records of a type, the keys of which have characters in each value, go to one
path exactly if the keys have the same pieces between commas. Where commas occur at one place of the
keys only, as they do in keys of a single value, these are the same only if the values are. -/
theorem writes_collide_iff (conn : Connection σ) {m m' : Model} (htype : m'.schema = m.schema)
    (hfields : m.schema.primaryKey ≠ []) {key key' : List Json} (hkey : m.heldKey? = some key)
    (hkey' : m'.heldKey? = some key') (hfull : ∀ v ∈ key, v.keyText ≠ "")
    (hfull' : ∀ v ∈ key', v.keyText ≠ "") :
    ∃ path path', conn.WritesTo m path ∧ conn.WritesTo m' path' ∧
      (path = path' ↔ Key.parts key = Key.parts key') ∧
      ∀ place, Key.CommasOnlyAt place key → Key.CommasOnlyAt place key' →
        key.map Json.keyText ≠ key'.map Json.keyText → path ≠ path' := by
  have hlength : key.length = m.schema.primaryKey.length := Model.length_of_keyOf? hkey
  have hlength' : key'.length = m.schema.primaryKey.length :=
    htype ▸ Model.length_of_keyOf? hkey'
  -- A key of as many values as there are fields has one, and the text of each has a character.
  have hsome : ∀ {values : List Json}, values.length = m.schema.primaryKey.length →
      (∀ v ∈ values, v.keyText ≠ "") → values ≠ [] ∧ Key.text values ≠ "" := by
    intro values hvalues hfull
    have hne : values ≠ [] := by
      rintro rfl
      exact hfields (List.length_eq_zero_iff.mp hvalues.symm)
    refine ⟨hne, fun hempty => ?_⟩
    obtain rfl | rfl := (Key.text_eq_empty_iff values).mp hempty
    · exact hne rfl
    · exact hfull _ List.mem_cons_self rfl
  obtain ⟨hne, htext⟩ := hsome hlength hfull
  obtain ⟨hne', htext'⟩ := hsome hlength' hfull'
  have hpaths : Command.itemPath (trim m.schema.resourcePath) (Key.text key) =
      Command.itemPath (trim m'.schema.resourcePath) (Key.text key') ↔
        Key.parts key = Key.parts key' := by
    rw [← Key.text_eq_iff hne hne', htype, Command.itemPath, Command.itemPath,
      String.append_right_inj]
    exact ⟨Key.segment_injective, congrArg _⟩
  have hsegment : m.keySegment? = some (Key.text key) := congrArg (Option.map Key.text) hkey
  have hsegment' : m'.keySegment? = some (Key.text key') := congrArg (Option.map Key.text) hkey'
  refine ⟨_, _, writesTo_itemPath conn hsegment htext, writesTo_itemPath conn hsegment' htext',
    hpaths, fun place hcommas hcommas' hdiffer hsame => hdiffer ?_⟩
  exact Key.eq_of_parts_eq (hlength.trans hlength'.symm) hcommas hcommas' (hpaths.mp hsame)

/-- With a comma in the first value of one key and in the second of another, two records are removed
under one path. -/
theorem writes_collide_commas :
    let conn : Connection Unit :=
      { catalog := [], config := {}, auth := .none, answer := fun _ w => (.ok { status := 204 }, w)
        pageBudget := 1 }
    let place (shelf box : String) : Model :=
      .ofFields { typeName := "Place", fields := ["shelf", "box"], primaryKey := ["shelf", "box"] }
        (.object [("box", .text box), ("shelf", .text shelf)])
    let m := place "a,b" "c"
    let m' := place "a" "b,c"
    let key : List Json := [.text "a,b", .text "c"]
    let key' : List Json := [.text "a", .text "b,c"]
    let removal (m : Model) : List String :=
      (eval (conn.deleteModel m) { backend := () }).2.sent.map (·.request.path)
    (m'.schema = m.schema ∧ m.schema.primaryKey ≠ [] ∧ m.heldKey? = some key ∧
        m'.heldKey? = some key' ∧ (∀ v ∈ key, v.keyText ≠ "") ∧ ∀ v ∈ key', v.keyText ≠ "") ∧
      (m.isNew = false ∧ m'.isNew = false ∧ key.map Json.keyText ≠ key'.map Json.keyText ∧
        removal m = ["places/a,b,c"] ∧ removal m' = ["places/a,b,c"]) ∧
      ∃ path path', conn.WritesTo m path ∧ conn.WritesTo m' path' ∧
        (path = path' ↔ Key.parts key = Key.parts key') ∧
        ∀ place, Key.CommasOnlyAt place key → Key.CommasOnlyAt place key' →
          key.map Json.keyText ≠ key'.map Json.keyText → path ≠ path' := by
  intro conn place m m' key key' removal
  have htype : m'.schema = m.schema := by decide +kernel
  have hfields : m.schema.primaryKey ≠ [] := by decide +kernel
  have hkey : m.heldKey? = some key := by decide +kernel
  have hkey' : m'.heldKey? = some key' := by decide +kernel
  have hfull : ∀ v ∈ key, v.keyText ≠ "" := by decide +kernel
  have hfull' : ∀ v ∈ key', v.keyText ≠ "" := by decide +kernel
  exact ⟨⟨htype, hfields, hkey, hkey', hfull, hfull'⟩, by decide +kernel,
    writes_collide_iff conn htype hfields hkey hkey' hfull hfull'⟩

end Connection

end RestQuery
