import Mathlib.Data.List.Basic
import Mathlib.Data.List.Induction
import RestQuery.Page.Rows

/-!
# The records of a response without repetitions

`Model.distinct` tells records apart by one text, made of the texts of the key's components with a
separator between them. As long as no component holds the separator, that text tells the components
(`distinctKey_eq_iff`), so a record is dropped exactly if an earlier one agrees with it in every
component. `distinct_eq_firsts` puts it together: up to the first record that lacks a part of its
key the first of each key stay, in order, and from there on all records do.
-/

namespace RestQuery

namespace Model

/-- The text of a field by which records are told apart; a missing or null field has none. -/
def fieldText? (m : Model) (field : String) : Option String :=
  (Json.present? (KeyMap.get? m.attributes field)).map Json.keyText

/-- Whether a record lacks a component of the key of a type. -/
def LacksKey (s : Schema) (m : Model) : Prop :=
  ∃ field ∈ s.primaryKey, m.fieldText? field = none

/-- Whether two records differ in the text of some component of the key of a type. -/
def KeyDiffers (s : Schema) (m m' : Model) : Prop :=
  ∃ field ∈ s.primaryKey, m.fieldText? field ≠ m'.fieldText? field

variable {s : Schema} {m m' : Model}

instance : Decidable (LacksKey s m) :=
  inferInstanceAs (Decidable (∃ field ∈ s.primaryKey, m.fieldText? field = none))

instance : Decidable (KeyDiffers s m m') :=
  inferInstanceAs (Decidable (∃ field ∈ s.primaryKey, m.fieldText? field ≠ m'.fieldText? field))

/-- The records whose key differs from that of every earlier one, in order. -/
def firsts (s : Schema) (models : List Model) : List Model :=
  (List.range models.length).filterMap fun i =>
    models[i]?.filter fun m => ∀ earlier ∈ models.take i, KeyDiffers s earlier m

/-- How many records there are before the first that lacks a component of its key. -/
def keyedCount (s : Schema) (models : List Model) : Nat :=
  models.findIdx fun m => LacksKey s m

/-! ## The text of a key -/

/-- There is a value for each of some fields exactly if each field has its value. -/
theorem mapM_eq_some_iff {α : Type} {f : String → Option α} {fields : List String}
    {values : List α} : fields.mapM f = some values ↔ fields.map f = values.map some := by
  induction fields generalizing values with
  | nil => cases values <;> simp
  | cons field rest ih =>
    simp only [List.mapM_cons, Option.bind_eq_bind, Option.bind_eq_some_iff, Option.pure_def,
      Option.some.injEq, ih]
    constructor
    · rintro ⟨value, hvalue, others, hothers, rfl⟩
      rw [List.map_cons, List.map_cons, hvalue, hothers]
    · intro h
      cases values with
      | nil => cases h
      | cons value others =>
        obtain ⟨hvalue, hothers⟩ := List.cons.inj h
        exact ⟨value, hvalue, others, hothers, rfl⟩

/-- The values of a complete key have the texts of the components. -/
theorem map_fieldText? {values : List Json} (h : m.primaryKey? = some values) :
    m.schema.primaryKey.map m.fieldText? = (values.map Json.keyText).map some := by
  have htexts := congrArg (List.map (Option.map Json.keyText)) (mapM_eq_some_iff.mp h)
  rw [List.map_map, List.map_map] at htexts
  rw [List.map_map]
  exact htexts

/-- Values are found for some fields unless one of these has none. -/
theorem exists_mapM_iff {α : Type} {f : String → Option α} {fields : List String} :
    (∃ values, fields.mapM f = some values) ↔ ∀ field ∈ fields, f field ≠ none := by
  simp only [mapM_eq_some_iff]
  constructor
  · rintro ⟨values, hvalues⟩ field hfield hnone
    have hmem : f field ∈ values.map some := hvalues ▸ List.mem_map_of_mem hfield
    rw [hnone] at hmem
    obtain ⟨value, -, hvalue⟩ := List.mem_map.mp hmem
    cases hvalue
  · intro hall
    refine ⟨fields.filterMap f, ?_⟩
    induction fields with
    | nil => rfl
    | cons field rest ih =>
      obtain ⟨hfield, hrest⟩ := List.forall_mem_cons.mp hall
      obtain ⟨value, hvalue⟩ := Option.ne_none_iff_exists'.mp hfield
      rw [List.map_cons, List.filterMap_cons_some hvalue, List.map_cons, hvalue, ih hrest]

/-- The key of a record is complete unless the record lacks a component. -/
theorem exists_primaryKey?_iff (hs : m.schema = s) :
    (∃ values, m.primaryKey? = some values) ↔ ¬ m.LacksKey s := by
  subst hs
  have hcomplete : (∃ values, m.primaryKey? = some values) ↔
      ∀ field ∈ m.schema.primaryKey, Json.present? (KeyMap.get? m.attributes field) ≠ none :=
    exists_mapM_iff
  rw [hcomplete, LacksKey]
  simp only [fieldText?, Option.map_eq_none_iff, not_exists, not_and, ne_eq]

/-- A separator between texts that do not hold it tells the texts. -/
theorem intercalate_inj {texts texts' : List String} (hne : texts ≠ []) (hne' : texts' ≠ [])
    (h : ∀ text ∈ texts, '\x1f' ∉ text.toList) (h' : ∀ text ∈ texts', '\x1f' ∉ text.toList) :
    String.intercalate "\x1f" texts = String.intercalate "\x1f" texts' ↔ texts = texts' := by
  have hsplit : ∀ {texts : List String}, texts ≠ [] → (∀ text ∈ texts, '\x1f' ∉ text.toList) →
      (String.intercalate "\x1f" texts).toList.splitOn '\x1f' = texts.map String.toList := by
    intro texts hne h
    rw [String.toList_intercalate]
    refine List.splitOn_intercalate '\x1f' (fun chars hchars => ?_) (by simpa using hne)
    obtain ⟨text, htext, rfl⟩ := List.mem_map.mp hchars
    exact h text htext
  refine ⟨fun heq => ?_, congrArg _⟩
  have hchars := hsplit hne h
  rw [heq, hsplit hne' h'] at hchars
  exact ((List.map_inj_right fun _ _ => String.toList_inj.mp).mp hchars).symm

/-- Whether a record of a type has no component in its key that holds the separator. -/
structure PlainKey (s : Schema) (m : Model) : Prop where
  own : m.schema = s
  plain : ∀ field ∈ s.primaryKey, ∀ text ∈ m.fieldText? field, '\x1f' ∉ text.toList

/-- The texts that the text of a complete key is made of are those of its components. -/
theorem PlainKey.texts (hm : PlainKey s m) {values : List Json} (h : m.primaryKey? = some values) :
    s.primaryKey.map m.fieldText? = (values.map Json.keyText).map some ∧
      ∀ text ∈ values.map Json.keyText, '\x1f' ∉ text.toList := by
  have htexts := map_fieldText? h
  rw [hm.own] at htexts
  refine ⟨htexts, fun text htext => ?_⟩
  have hmem : some text ∈ s.primaryKey.map m.fieldText? :=
    htexts ▸ List.mem_map_of_mem htext
  obtain ⟨field, hfield, hsome⟩ := List.mem_map.mp hmem
  exact hm.plain field hfield text hsome

/-- Where no component holds the separator, two keys of one text agree in every component. -/
theorem distinctKey_eq_iff (hkey : s.primaryKey ≠ []) (hm : PlainKey s m) (hm' : PlainKey s m')
    {values values' : List Json} (h : m.primaryKey? = some values)
    (h' : m'.primaryKey? = some values') :
    distinctKey values = distinctKey values' ↔ ¬ KeyDiffers s m m' := by
  obtain ⟨htexts, hplain⟩ := hm.texts h
  obtain ⟨htexts', hplain'⟩ := hm'.texts h'
  have hne : ∀ {m : Model} {texts : List String},
      s.primaryKey.map m.fieldText? = texts.map some → texts ≠ [] := by
    rintro m texts heq rfl
    exact hkey (List.map_eq_nil_iff.mp heq)
  have hagree : ¬ KeyDiffers s m m' ↔ ∀ field ∈ s.primaryKey, m.fieldText? field =
      m'.fieldText? field := by
    simp only [KeyDiffers, not_exists, not_and, ne_eq, not_not]
  rw [distinctKey, distinctKey, intercalate_inj (hne htexts) (hne htexts') hplain hplain', hagree,
    ← List.map_inj_left, htexts, htexts']
  exact (List.map_inj_right fun _ _ => Option.some.inj).symm

/-! ## The loop -/

/-- The text of the key of a record, if the key is complete. -/
def joinedKey? (m : Model) : Option String := m.primaryKey?.map distinctKey

/-- A record behind others with complete keys stays unless its key was met before. -/
theorem dropRepeated_concat {front : List Model} (hfront : ∀ e ∈ front, e.primaryKey? ≠ none)
    {values : List Json} (h : m.primaryKey? = some values) (seen : List String) :
    dropRepeated seen (front ++ [m]) = dropRepeated seen front ++
      if distinctKey values ∈ seen ∨ some (distinctKey values) ∈ front.map joinedKey? then []
      else [m] := by
  induction front generalizing seen with
  | nil =>
    simp only [List.nil_append, dropRepeated, h, List.map_nil, List.not_mem_nil, or_false]
  | cons e rest ih =>
    obtain ⟨he, hrest⟩ := List.forall_mem_cons.mp hfront
    obtain ⟨first, hfirst⟩ := Option.ne_none_iff_exists'.mp he
    have hjoined : e.joinedKey? = some (distinctKey first) := by rw [joinedKey?, hfirst]; rfl
    rw [List.cons_append, dropRepeated, dropRepeated, hfirst]
    simp only [List.map_cons, hjoined, List.mem_cons, Option.some.injEq]
    -- The key of the first record is one of those seen afterwards, whether it is new or not.
    by_cases hseen : distinctKey first ∈ seen
    · rw [if_pos hseen, if_pos hseen, ih hrest seen]
      exact congrArg _ (if_congr (by grind) rfl rfl)
    · rw [if_neg hseen, if_neg hseen, ih hrest, List.cons_append]
      exact congrArg _ (congrArg _ (if_congr (by grind) rfl rfl))

/-- From the first record without a complete key on, all records stay. -/
theorem dropRepeated_append {front rest : List Model} (hfront : ∀ e ∈ front, e.primaryKey? ≠ none)
    (hrest : ∀ e ∈ rest.head?, e.primaryKey? = none) (seen : List String) :
    dropRepeated seen (front ++ rest) = dropRepeated seen front ++ rest := by
  induction front generalizing seen with
  | nil =>
    cases rest with
    | nil => rfl
    | cons e others =>
      have he : e.primaryKey? = none := hrest e rfl
      simp only [List.nil_append, dropRepeated, he]
  | cons e others ih =>
    obtain ⟨he, hothers⟩ := List.forall_mem_cons.mp hfront
    obtain ⟨first, hfirst⟩ := Option.ne_none_iff_exists'.mp he
    rw [List.cons_append, dropRepeated, dropRepeated, hfirst]
    dsimp only
    split
    · exact ih hothers seen
    · rw [ih hothers, List.cons_append]

/-- A record behind others is a first one if its key differs from all of theirs. -/
theorem firsts_concat (s : Schema) (front : List Model) (m : Model) :
    firsts s (front ++ [m]) =
      firsts s front ++ if ∀ e ∈ front, KeyDiffers s e m then [m] else [] := by
  rw [firsts, List.length_append, List.length_singleton, List.range_succ, List.filterMap_append]
  congr 1
  · refine List.filterMap_congr fun i hi => ?_
    have hlt : i < front.length := List.mem_range.mp hi
    rw [List.getElem?_append_left hlt, List.take_append_of_le_length (Nat.le_of_lt hlt)]
  · rw [List.filterMap_cons, List.filterMap_nil, List.getElem?_concat_length, List.take_left,
      Option.filter_some]
    by_cases hfirst : ∀ e ∈ front, KeyDiffers s e m
    · rw [if_pos (decide_eq_true hfirst), if_pos hfirst]
    · rw [if_neg (by simpa using hfirst), if_neg hfirst]

/-- Of records with complete keys, those are dropped that are no first ones. -/
theorem dropRepeated_eq_firsts (hkey : s.primaryKey ≠ []) {models : List Model}
    (hplain : ∀ m ∈ models, PlainKey s m) (hcomplete : ∀ m ∈ models, ¬ LacksKey s m) :
    dropRepeated [] models = firsts s models := by
  have hkeys : ∀ m ∈ models, ∃ values, m.primaryKey? = some values :=
    fun m hm => (exists_primaryKey?_iff (hplain m hm).own).mpr (hcomplete m hm)
  clear hcomplete
  induction models using List.reverseRecOn with
  | nil => rfl
  | append_singleton front m ih =>
    simp only [List.mem_append, List.mem_singleton, or_imp, forall_and, forall_eq] at hplain hkeys
    obtain ⟨hfront, hm⟩ := hplain
    obtain ⟨hvalues, values, hvalue⟩ := hkeys
    have hsome : ∀ e ∈ front, e.primaryKey? ≠ none := fun e he =>
      Option.ne_none_iff_exists'.mpr (hvalues e he)
    have hmet : some (distinctKey values) ∈ front.map joinedKey? ↔
        ¬ ∀ e ∈ front, KeyDiffers s e m := by
      simp only [List.mem_map, not_forall, exists_prop]
      refine exists_congr fun e => and_congr_right fun he => ?_
      obtain ⟨others, hothers⟩ := hvalues e he
      rw [joinedKey?, hothers, Option.map_some, Option.some.injEq]
      exact distinctKey_eq_iff hkey (hfront e he) hm hothers hvalue
    rw [dropRepeated_concat hsome hvalue, firsts_concat, ih hfront hvalues]
    simp only [List.not_mem_nil, false_or, hmet, ite_not]

/-- A type without a key has no records without repetitions. For any other type, and keys whose
components do not hold the separator, the records before the first that lacks a component are left
out where an earlier one agrees in every component, and no other record is. -/
theorem distinct_eq_firsts (s : Schema) (models : List Model) :
    (s.primaryKey = [] → distinct s models = .error (.missingPrimaryKey s.typeName)) ∧
      (s.primaryKey ≠ [] → (∀ m ∈ models, m.schema = s) →
        (∀ m ∈ models, ∀ field ∈ s.primaryKey, ∀ text ∈ m.fieldText? field,
          '\x1f' ∉ text.toList) →
        distinct s models = .ok (firsts s (models.take (keyedCount s models)) ++
          models.drop (keyedCount s models))) := by
  refine ⟨fun hkey => ?_, fun hkey hown hplain => ?_⟩
  · rw [distinct, hkey]
    rfl
  · have hplainKey : ∀ m ∈ models, PlainKey s m := fun m hm => ⟨hown m hm, hplain m hm⟩
    have hfront : ∀ m ∈ models.take (keyedCount s models), ¬ LacksKey s m := by
      intro m hm
      obtain ⟨i, hi, rfl⟩ := List.mem_take_iff_getElem.mp hm
      have hlt : i < models.findIdx fun m => LacksKey s m :=
        Nat.lt_of_lt_of_le hi (Nat.min_le_left _ _)
      simpa using List.not_of_lt_findIdx hlt
    have hrest : ∀ m ∈ (models.drop (keyedCount s models)).head?, m.primaryKey? = none := by
      intro m hm
      rw [List.head?_drop] at hm
      obtain ⟨hlt, heq⟩ := List.getElem?_eq_some_iff.mp hm
      have hlacks : LacksKey s m := by
        have hfound := List.findIdx_getElem (w := hlt)
        rw [decide_eq_true_eq] at hfound
        exact heq ▸ hfound
      have hown : m.schema = s := hown m (heq ▸ List.getElem_mem hlt)
      cases hvalues : m.primaryKey? with
      | none => rfl
      | some values => exact absurd hlacks ((exists_primaryKey?_iff hown).mp ⟨values, hvalues⟩)
    have hkeyed : ∀ m ∈ models.take (keyedCount s models), m.primaryKey? ≠ none := fun m hm =>
      Option.ne_none_iff_exists'.mpr
        ((exists_primaryKey?_iff (hown m (List.mem_of_mem_take hm))).mpr (hfront m hm))
    have hsplit := dropRepeated_append hkeyed hrest []
    rw [List.take_append_drop, dropRepeated_eq_firsts hkey
      (fun m hm => hplainKey m (List.mem_of_mem_take hm)) hfront] at hsplit
    rw [distinct, if_neg (by simpa using hkey), hsplit]

/-- Keys that agree as texts, keys that agree only without a separator, and a record without a
key. -/
theorem distinct_eq_firsts_lines :
    let s : Schema :=
      { typeName := "Line", fields := ["order", "item", "note"], primaryKey := ["order", "item"] }
    let line (order item : Json) (note : String) : Model :=
      { Model.new s with attributes := [("item", item), ("note", .text note), ("order", order)] }
    let models : List Model :=
      [line (.nat 1) (.nat 12) "first", line (.text "1") (.nat 12) "same texts",
        line (.nat 11) (.nat 2) "same digits", line (.nat 1) (.nat 12) "again",
        line (.nat 2) .null "no key", line (.nat 1) (.nat 12) "behind it"]
    (s.primaryKey ≠ [] ∧ (∀ m ∈ models, m.schema = s) ∧
        ∀ m ∈ models, ∀ field ∈ s.primaryKey, ∀ text ∈ m.fieldText? field,
          '\x1f' ∉ text.toList) ∧
      distinct s models = .ok
        [line (.nat 1) (.nat 12) "first", line (.nat 11) (.nat 2) "same digits",
          line (.nat 2) .null "no key", line (.nat 1) (.nat 12) "behind it"] := by
  intro s line models
  have hkey : s.primaryKey ≠ [] := nofun
  have hown : ∀ m ∈ models, m.schema = s := by decide
  have hplain : ∀ m ∈ models, ∀ field ∈ s.primaryKey, ∀ text ∈ m.fieldText? field,
      '\x1f' ∉ text.toList := by decide
  exact ⟨⟨hkey, hown, hplain⟩, (distinct_eq_firsts s models).2 hkey hown hplain⟩

end Model

end RestQuery
