import RestQuery.Page.Eager
import RestQuery.Proofs.Filter.Criteria
import RestQuery.Proofs.Filter.Substitution
import RestQuery.Proofs.Model.Rows

/-!
# Records that belong to a record

A record of the target type belongs to a record if both have the same texts in all fields of the
link (`Relation.Belongs`), and `Relation.pick` picks what belongs (`Relation.populated_of_pick`).

The related records of some records are read by one query. Its condition asks for the values of the
link where that has one field. Where it has several, the condition is joined by `or`, and a store
reads no criteria in that. In both cases the store answers with every row that belongs to one of the
records (`Relation.exists_compile_condition`), and whatever else it answers with is not picked. So
nothing is lost by asking for a part of the rows only (`Relation.pick_filter`).
-/

namespace RestQuery

open Text

namespace Json

/-- A value is present if it is there and not null. -/
theorem present?_eq_some_iff {v : Option Json} {own : Json} :
    present? v = some own ↔ v = some own ∧ own ≠ .null := by
  unfold present?
  split
  · refine ⟨nofun, ?_⟩
    rintro ⟨hnull, hne⟩
    exact absurd (Option.some.inj hnull).symm hne
  · rename_i hne
    refine ⟨fun h => ⟨h, ?_⟩, And.left⟩
    rintro rfl
    exact hne h

/-- The members of a row are those of its object, if it is one. -/
theorem member?_eq (row : Json) (field : String) :
    row.member? field = KeyMap.get? row.members field := by
  cases row <;> rfl

end Json

/-- The text of a field of a row is that of the attribute that was read of it. -/
theorem Json.textAt_of_ofFields {t : Schema} {row : Json}
    (hdistinct : (row.members.map Prod.fst).Nodup) {field : String} {value : Json}
    (h : KeyMap.get? (Model.ofFields t row).attributes field = some value) :
    row.textAt field = value.keyText := by
  rw [(Model.ofFields_eq t row).2.1, KeyMap.get?_ofEntries hdistinct] at h
  rw [textAt, member?_eq, h]
  rfl

namespace Condition

/-- Without parameters a membership in any values is compiled as it stands. -/
theorem compile_oneOf (field : String) {values : List Json} (hne : values ≠ []) :
    (oneOf field values).compile [] = .ok (Filter.field field "in" (.list values)) := by
  have hsame : values.map (resolve []) = values :=
    (List.map_congr_left fun v _ => resolve_nil v).trans (List.map_id values)
  rw [oneOf, compile, Filter.member, if_neg (by simpa using hne), hsame]
  rfl

/-- The equality of fields with texts and whole numbers compiles to comparisons with these. -/
theorem exists_compile_fields {pairs : List (String × Json)}
    (hpairs : ∀ pair ∈ pairs, pair.2.isPlain) :
    ∃ f, (fields pairs).compile [] = .ok f ∧ ∀ entry ∈ f, ∃ v : Json, v.isPlain ∧
      entry.2 = .object (Filter.single "eq" v) := by
  have hsingle : ∀ pair ∈ pairs, Filter.pairOperators [] pair.2 =
      .object (Filter.single "eq" pair.2) := by
    intro pair hpair
    rw [Filter.pairOperators_of_isPlain (by rw [resolve_nil]; exact hpairs pair hpair), resolve_nil]
  obtain ⟨f, hf⟩ := Filter.exists_fields [] fun pair hpair =>
    Json.isList_of_isPlain (hpairs pair hpair)
  refine ⟨f, hf, fun entry hentry => ?_⟩
  rw [Filter.fields_eq_ok hf] at hentry
  obtain ⟨pair, hpair, rfl⟩ := List.mem_map.mp (KeyMap.mem_of_mem_ofEntries hentry)
  exact ⟨pair.2, hpairs pair hpair, hsingle pair hpair⟩

/-- Some conditions compile if each does. -/
theorem exists_compileAll {params : Parameters} {operands : List Condition} {P : Filter → Prop}
    (h : ∀ c ∈ operands, ∃ f, c.compile params = .ok f ∧ P f) :
    ∃ parts, compileAll params operands = .ok parts ∧ ∀ f ∈ parts, P f := by
  induction operands with
  | nil => exact ⟨[], rfl, nofun⟩
  | cons c rest ih =>
    obtain ⟨f, hf, hP⟩ := h c List.mem_cons_self
    obtain ⟨parts, hparts, hrest⟩ := ih fun c hc => h c (List.mem_cons_of_mem _ hc)
    refine ⟨if f.isEmpty then parts else f :: parts, ?_, ?_⟩
    · rw [compileAll, hf, hparts]
      rfl
    · split
      · exact hrest
      · exact List.forall_mem_cons.mpr ⟨hP, hrest⟩

end Condition

namespace Relation

variable {r : Relation} {m target : Model} {models targets : List Model}

/-- Whether a record of the target type belongs to a record: in every pair of fields of the link,
both have values of one text, and the record itself one that is not null. -/
def Belongs (r : Relation) (m target : Model) : Prop :=
  r.link ≠ [] ∧ ∀ pair ∈ r.link, ∃ value own, KeyMap.get? target.attributes pair.1 = some value ∧
    (KeyMap.get? m.attributes pair.2 = some own ∧ own ≠ .null) ∧ value.keyText = own.keyText

/-- What is linked is what belongs. -/
theorem links_iff : r.links m target = true ↔ r.Belongs m target := by
  unfold links Belongs
  rw [Bool.and_eq_true, Bool.not_eq_true', List.isEmpty_eq_false_iff, List.all_eq_true]
  refine and_congr_right fun _ => forall₂_congr fun pair _ => ?_
  simp only [← Json.present?_eq_some_iff]
  cases KeyMap.get? target.attributes pair.1 with
  | none => simp
  | some value =>
    cases Json.present? (KeyMap.get? m.attributes pair.2) with
    | none => simp
    | some own => simp

instance (r : Relation) (m target : Model) : Decidable (r.Belongs m target) :=
  decidable_of_iff _ links_iff

/-- Whether what belongs to a record among some others is attached to it: all that belongs if there
may be any number, else the first. Without a value in a field of the link, nothing is. -/
structure Populated (r : Relation) (targets : List Model) (m : Model) : Prop where
  many : r.multiple = true →
    m.related? r.name = some (.many (targets.filter fun target => r.Belongs m target))
  single : r.multiple = false → m.related? r.name =
    some (((targets.find? fun target => r.Belongs m target).map .one).getD .nothing)
  unlinked : ∀ pair ∈ r.link, (KeyMap.get? m.attributes pair.2 = none ∨
      KeyMap.get? m.attributes pair.2 = some .null) →
    m.related? r.name = some (if r.multiple then .many [] else .nothing)

/-- What is picked for a record populates it. -/
theorem populated_of_pick (h : m.related? r.name = some (r.pick targets m)) :
    r.Populated targets m := by
  have hfound : targets.filter (r.links m) = targets.filter fun target => r.Belongs m target := by
    refine List.filter_congr fun target _ => ?_
    rw [Bool.eq_iff_iff, links_iff, decide_eq_true_iff]
  unfold pick at h
  dsimp only at h
  rw [hfound] at h
  refine ⟨fun hmany => ?_, fun hsingle => ?_, fun pair hpair hnone => ?_⟩
  · rw [h, if_pos hmany]
  · rw [h, hsingle, if_neg Bool.false_ne_true, ← List.head?_filter]
    cases targets.filter fun target => r.Belongs m target <;> rfl
  · have hempty : (targets.filter fun target => r.Belongs m target) = [] := by
      rw [List.filter_eq_nil_iff]
      intro target _ hbelongs
      obtain ⟨value, own, -, ⟨hown, hne⟩, -⟩ := (of_decide_eq_true hbelongs).2 pair hpair
      rcases hnone with hnone | hnull
      · rw [hnone] at hown
        cases hown
      · exact hne (Option.some.inj (hown.symm.trans hnull))
    rw [h, hempty]

/-- Nothing is lost for a record if rows are left out whose records do not belong to it. -/
theorem pick_filter (t : Schema) {rows : List Json} {p : Json → Bool}
    (h : ∀ row ∈ rows, r.Belongs m (Model.ofFields t row) → p row = true) :
    r.pick ((rows.filter p).map (Model.ofFields t)) m = r.pick (rows.map (Model.ofFields t)) m := by
  have hfound : ((rows.filter p).map (Model.ofFields t)).filter (r.links m) =
      (rows.map (Model.ofFields t)).filter (r.links m) := by
    rw [List.filter_map, List.filter_map, List.filter_filter]
    refine congrArg _ (List.filter_congr fun row hrow => ?_)
    cases hlinks : r.links m (Model.ofFields t row) with
    | false => rw [Function.comp_apply, hlinks, Bool.false_and]
    | true => rw [Function.comp_apply, hlinks, h row hrow (links_iff.mp hlinks), Bool.and_self]
  unfold pick
  rw [hfound]

/-! ## The condition for related records -/

/-- Whether the values of a record in the fields of a link are texts or whole numbers, or null. -/
def LinksPlain (r : Relation) (m : Model) : Prop :=
  ∀ pair ∈ r.link, ∀ own, KeyMap.get? m.attributes pair.2 = some own → own = .null ∨ own.isPlain

/-- Whether the related records of some records can be asked for by one condition: the link has one
field, or all values in its fields are plain. -/
def Askable (r : Relation) (models : List Model) : Prop :=
  (∃ pair, r.link = [pair]) ∨ ∀ m ∈ models, r.LinksPlain m

/-- Values that were held stay so. -/
theorem mem_addValue {values held : List Json} {v : Json} (h : v ∈ held) :
    v ∈ values.foldl addValue held := by
  induction values generalizing held with
  | nil => exact h
  | cons u rest ih =>
    apply ih
    unfold addValue
    split
    · exact h
    · exact List.mem_append_left _ h

/-- Where values that are the same are left out, each is held, or one that is the same. -/
theorem exists_mem_addValue (held : List Json) {values : List Json} {v : Json} (h : v ∈ values) :
    ∃ kept ∈ values.foldl addValue held, kept = v ∨ kept.same v := by
  induction values generalizing held with
  | nil => cases h
  | cons u rest ih =>
    rcases List.mem_cons.mp h with rfl | hrest
    · rw [List.foldl_cons]
      by_cases hany : held.any (·.same v)
      · obtain ⟨kept, hkept, hsame⟩ := List.any_eq_true.mp hany
        rw [addValue, if_pos hany]
        exact ⟨kept, mem_addValue hkept, .inr hsame⟩
      · rw [addValue, if_neg hany]
        exact ⟨v, mem_addValue (List.mem_append_right _ (List.mem_singleton_self v)), .inl rfl⟩
    · exact ih _ hrest

/-- A record to which anything belongs has all values of the link. -/
theorem exists_linkPairs (h : r.Belongs m target) : ∃ pairs, r.linkPairs? m = some pairs := by
  obtain ⟨-, hpairs⟩ := h
  unfold linkPairs?
  generalize r.link = link at hpairs
  induction link with
  | nil => exact ⟨[], rfl⟩
  | cons pair rest ih =>
    obtain ⟨targetField, localField⟩ := pair
    obtain ⟨value, own, -, hown, -⟩ := hpairs _ List.mem_cons_self
    obtain ⟨pairs, hrest⟩ := ih fun pair hpair => hpairs pair (List.mem_cons_of_mem _ hpair)
    refine ⟨(targetField, own) :: pairs, ?_⟩
    rw [List.mapM_cons, hrest]
    dsimp only
    rw [Json.present?_eq_some_iff.mpr hown]
    rfl

/-- The values that a record is linked by are texts and whole numbers. -/
theorem isPlain_of_linkPairs (hplain : r.LinksPlain m) {pairs : List (String × Json)}
    (h : r.linkPairs? m = some pairs) : ∀ entry ∈ pairs, entry.2.isPlain := by
  unfold LinksPlain at hplain
  unfold linkPairs? at h
  generalize r.link = link at hplain h
  induction link generalizing pairs with
  | nil =>
    cases h
    exact nofun
  | cons pair rest ih =>
    simp only [List.mapM_cons, Option.bind_eq_bind, Option.bind_eq_some_iff] at h
    obtain ⟨first, hfirst, others, hothers, heq⟩ := h
    obtain ⟨own, hown, rfl⟩ := Option.map_eq_some_iff.mp hfirst
    obtain ⟨hown, hne⟩ := Json.present?_eq_some_iff.mp hown
    cases heq
    intro entry hentry
    rcases List.mem_cons.mp hentry with rfl | hentry
    · exact (hplain pair List.mem_cons_self own hown).resolve_left hne
    · exact ih (fun pair hpair => hplain pair (List.mem_cons_of_mem _ hpair)) hothers entry hentry

/-- Where there is nothing to ask for, nothing belongs to any of the records. -/
theorem not_belongs_of_condition?_eq_none (h : r.condition? models = none) (hm : m ∈ models) :
    ¬ r.Belongs m target := by
  intro hbelongs
  unfold condition? at h
  split at h
  · rename_i targetField localField hlink
    have hmem : (targetField, localField) ∈ r.link := by rw [hlink]; exact List.mem_singleton_self _
    dsimp only at h
    split at h
    · rename_i hnone
      obtain ⟨-, own, -, hown, -⟩ := hbelongs.2 _ hmem
      have hin : own ∈ models.filterMap fun m =>
          Json.present? (KeyMap.get? m.attributes localField) :=
        List.mem_filterMap.mpr ⟨m, hm, Json.present?_eq_some_iff.mpr hown⟩
      obtain ⟨kept, hkept, -⟩ := exists_mem_addValue [] hin
      rw [hnone] at hkept
      cases hkept
    · cases h
  · split at h
    · rename_i hnone
      obtain ⟨pairs, hpairs⟩ := exists_linkPairs hbelongs
      have hin : pairs ∈ models.filterMap r.linkPairs? := List.mem_filterMap.mpr ⟨m, hm, hpairs⟩
      rw [hnone] at hin
      cases hin
    · cases h

/-- A row of a record that belongs has the text of one of the values that are asked for. -/
theorem meets_of_belongs {targetField localField : String} (hunbroken : Unbroken targetField)
    (hmem : (targetField, localField) ∈ r.link) (hm : m ∈ models) (hplain : r.LinksPlain m)
    (t : Schema) {row : Json} (hdistinct : (row.members.map Prod.fst).Nodup)
    (hbelongs : r.Belongs m (Model.ofFields t row)) :
    Store.meetsAll (Store.criteria (Wire.filterPairs (Filter.field targetField "in" (.list
      ((models.filterMap fun m => Json.present? (KeyMap.get? m.attributes localField)).foldl
        addValue []))))) row = true := by
  obtain ⟨value, own, hvalue, hown, htext⟩ := hbelongs.2 _ hmem
  have hown' : own.isPlain := (hplain _ hmem own hown.1).resolve_left hown.2
  have hin : own ∈ models.filterMap fun m =>
      Json.present? (KeyMap.get? m.attributes localField) :=
    List.mem_filterMap.mpr ⟨m, hm, Json.present?_eq_some_iff.mpr hown⟩
  obtain ⟨kept, hkept, hsame⟩ := exists_mem_addValue [] hin
  obtain ⟨hkept', hkeptText⟩ : kept.isPlain ∧ kept.keyText = own.keyText := by
    rcases hsame with rfl | hsame
    · exact ⟨hown', rfl⟩
    · exact Json.isPlain_of_same hown' hsame
  have hasked : row.textAt targetField = Wire.leafText kept := by
    rw [Json.textAt_of_ofFields hdistinct hvalue, htext, ← hkeptText,
      Wire.leafText_of_isPlain hkept']
  rw [Store.meetsAll_member hunbroken, Bool.or_eq_true, List.contains_iff_mem, hasked]
  exact .inr (List.mem_map_of_mem (List.mem_filter.mpr ⟨hkept, Json.isLeaf_of_isPlain hkept'⟩))

/-- Where there is something to ask for, the condition compiles, and every row that belongs to one
of the records meets the criteria that a store reads in it, if the values of that record are plain.
-/
theorem exists_compile_condition {c : Condition} (hunbroken : ∀ pair ∈ r.link, Unbroken pair.1)
    (hlinks : r.Askable models) (h : r.condition? models = some c) :
    ∃ filter, c.compile [] = .ok filter ∧
      ∀ (t : Schema) (row : Json), (row.members.map Prod.fst).Nodup → ∀ m ∈ models,
        r.LinksPlain m → r.Belongs m (Model.ofFields t row) →
          Store.meetsAll (Store.criteria (Wire.filterPairs filter)) row = true := by
  unfold condition? at h
  split at h
  · rename_i targetField localField hlink
    -- A link of one field: the condition has the text of every value that the records have there.
    have hmem : (targetField, localField) ∈ r.link := by rw [hlink]; exact List.mem_singleton_self _
    dsimp only at h
    split at h
    · cases h
    · rename_i hne
      obtain rfl := Option.some.inj h
      exact ⟨_, Condition.compile_oneOf targetField hne, fun t row hdistinct m hm hplain =>
        meets_of_belongs (hunbroken _ hmem) hmem hm hplain t hdistinct⟩
  · rename_i hmany
    have hplain : ∀ m ∈ models, r.LinksPlain m :=
      hlinks.resolve_left fun ⟨pair, hpair⟩ => hmany pair.1 pair.2 hpair
    split at h
    · cases h
    · rename_i combinations hne
      -- A link of several fields: the store reads no criteria in the alternatives, so all rows
      -- meet them.
      obtain rfl := Option.some.inj h
      have hfields : ∀ c ∈ (models.filterMap r.linkPairs?).map Condition.fields,
          ∃ f, c.compile [] = .ok f ∧ ∀ entry ∈ f, ∃ v : Json, v.isPlain ∧
            entry.2 = .object (Filter.single "eq" v) := by
        intro c hc
        obtain ⟨pairs, hpairs, rfl⟩ := List.mem_map.mp hc
        obtain ⟨m, hm, hlinked⟩ := List.mem_filterMap.mp hpairs
        exact Condition.exists_compile_fields (isPlain_of_linkPairs (hplain m hm) hlinked)
      obtain ⟨parts, hparts, hequal⟩ := Condition.exists_compileAll hfields
      refine ⟨Filter.joined .or parts, ?_, fun t row _ m _ _ _ => ?_⟩
      · rw [Condition.compile, hparts]
        rfl
      · rw [Store.criteria_joined hequal]
        rfl

end Relation

end RestQuery
