import RestQuery.Proofs.Filter.Leaves

/-!
# Keys in brackets

A leaf of a filter is sent under a key that spells the way to it in brackets. `Wire.readKey?` reads
the brackets back: it is what `Wire.spellKey` did (`readKey?_spellKey`), as long as no name has a
closing bracket. So the pairs of a filter are its leaves, each under its way (`filterPairs_eq`), and
what can be told from the pairs is what `Json.leafTexts` tells. `Clauses.filter_read_back` puts this
together: no key is sent twice, the pairs are the leaves in order, and two filters are sent alike
exactly if they have the same tree of texts.
-/

namespace RestQuery

namespace Wire

open Json

/-! ## Reading a key -/

/-- Reads some parts in brackets, one of them perhaps begun. Between two parts stands nothing else.
-/
def readParts : Option (List Char) → List Char → Option (List String)
  | none, [] => some []
  | some _, [] => none
  | none, c :: rest => if c = '[' then readParts (some []) rest else none
  | some begun, c :: rest =>
    if c = ']' then (readParts none rest).map (String.ofList begun :: ·)
    else readParts (some (begun ++ [c])) rest

/-- Reads the parts in brackets behind `filter`, if a key starts so. -/
def readKey? (key : String) : Option (List String) :=
  match key.toList with
  | 'f' :: 'i' :: 'l' :: 't' :: 'e' :: 'r' :: rest => readParts none rest
  | _ => none

/-- The key that spells some parts in brackets behind `filter`. -/
def spellKey (parts : List String) : String := parts.foldl bracket "filter"

/-- A part that is begun goes on up to its closing bracket. -/
theorem readParts_begun {part : List Char} (h : ']' ∉ part) (rest : List Char) :
    ∀ begun, readParts (some begun) (part ++ ']' :: rest) =
      (readParts none rest).map (String.ofList (begun ++ part) :: ·) := by
  induction part with
  | nil =>
    intro begun
    rw [List.nil_append, readParts, if_pos rfl, List.append_nil]
  | cons c part ih =>
    intro begun
    have hc : c ≠ ']' := (List.ne_of_not_mem_cons h).symm
    rw [List.cons_append, readParts, if_neg hc, ih (List.not_mem_of_not_mem_cons h),
      List.append_assoc]
    rfl

/-- Parts in brackets one after another are read as they are. -/
theorem readParts_flatMap {parts : List String} (h : ∀ part ∈ parts, ']' ∉ part.toList) :
    readParts none (parts.flatMap fun part => '[' :: (part.toList ++ [']'])) = some parts := by
  induction parts with
  | nil => rfl
  | cons part rest ih =>
    obtain ⟨hpart, hrest⟩ := List.forall_mem_cons.mp h
    rw [List.flatMap_cons, List.cons_append, List.append_assoc, List.singleton_append, readParts,
      if_pos rfl, readParts_begun hpart, ih hrest, List.nil_append, String.ofList_toList]
    rfl

theorem toList_foldl_bracket (parts : List String) (key : String) :
    (parts.foldl bracket key).toList =
      key.toList ++ parts.flatMap fun part => '[' :: (part.toList ++ [']']) := by
  induction parts generalizing key with
  | nil => exact (List.append_nil _).symm
  | cons part rest ih =>
    rw [List.foldl_cons, ih, toList_bracket, List.flatMap_cons, List.append_assoc]

/-- A key that was spelled is read back. -/
theorem readKey?_spellKey {parts : List String} (h : ∀ part ∈ parts, ']' ∉ part.toList) :
    readKey? (spellKey parts) = some parts := by
  rw [readKey?, spellKey, toList_foldl_bracket]
  exact readParts_flatMap h

example : readKey? "filter[id][in][10]" = some ["id", "in", "10"] := by decide

/-! ## The pairs of a value -/

/-- No leaf stands under a name with a closing bracket. -/
theorem closing_not_mem_names {v : Json} (hv : v.WellKeyed) :
    ∀ leaf ∈ v.leafTexts, ∀ name ∈ leaf.1, ']' ∉ name.toList := by
  induction hv using WellKeyed.byParts with
  | leaf v hv h =>
    intro leaf hleaf name hname
    rw [leafTexts_of_isLeaf h, List.mem_singleton] at hleaf
    rw [hleaf] at hname
    cases hname
  | node v hv h ih =>
    rintro ⟨names, sent⟩ hleaf name hname
    obtain ⟨s, part, rest, hpart, hsent, rfl⟩ := (mem_leafTexts_of_node h).mp hleaf
    rcases List.mem_cons.mp hname with rfl | hname
    · exact hv.closing_not_mem hpart
    · exact ih s part hpart _ hsent name hname

/-- A list or an object is sent as its parts, each under the key with its name. -/
theorem flatten_of_node {v : Json} (h : v.isLeaf = false) (key : String) :
    flatten key v = v.parts.flatMap fun (step, part) => flatten (bracket key step.text) part := by
  cases v with
  | object members =>
    rw [flatten]
    exact eq_flatMap_members (by rw [flattenMembers]) (fun _ _ _ => by rw [flattenMembers]; rfl) _
  | list items =>
    rw [flatten]
    exact eq_flatMap_items (fun _ => by rw [flattenItems])
      (fun _ _ _ => by rw [flattenItems]; rfl) _
  | _ => cases h

/-- A value is sent as its leaves, each under the key that spells the way to it. -/
theorem flatten_eq_leafTexts {v : Json} (hv : v.WellKeyed) (key : String) :
    flatten key v = v.leafTexts.map fun (names, sent) => (names.foldl bracket key, sent) := by
  -- The parts are sent under longer keys, so the induction is for any key.
  induction hv using WellKeyed.byParts generalizing key with
  | leaf v hv h =>
    rw [flatten_of_isLeaf h, leafTexts_of_isLeaf h]
    rfl
  | node v hv h ih =>
    rw [flatten_of_node h, leafTexts_of_node h, List.map_flatMap]
    refine List.flatMap_congr fun (step, part) hpart => ?_
    dsimp only
    rw [ih step part hpart, List.map_map]
    rfl

/-- A filter is sent as its leaves, each under the key that spells the way to it. -/
theorem filterPairs_eq_leafTexts {filter : Filter} (hfilter : (Json.object filter).WellKeyed) :
    filterPairs filter =
      (Json.object filter).leafTexts.map fun (names, sent) => (spellKey names, sent) := by
  have hflatten := flatten_eq_leafTexts hfilter "filter"
  rw [flatten] at hflatten
  exact hflatten

/-- The keys of a filter are read back as the ways to its leaves. -/
theorem map_readKey?_filterPairs {filter : Filter} (hfilter : (Json.object filter).WellKeyed) :
    (filterPairs filter).map (fun pair => (readKey? pair.1, pair.2)) =
      (Json.object filter).leafTexts.map fun (names, sent) => (some names, sent) := by
  rw [filterPairs_eq_leafTexts hfilter, List.map_map]
  refine List.map_congr_left fun (names, sent) hleaf => ?_
  exact congrArg (·, sent) (readKey?_spellKey (closing_not_mem_names hfilter _ hleaf))

/-- The keys of a filter are all different. -/
theorem nodup_filterPairs {filter : Filter} (hfilter : (Json.object filter).WellKeyed) :
    ((filterPairs filter).map Prod.fst).Nodup := by
  -- They are read back as different ways.
  have hread : ((filterPairs filter).map Prod.fst).map readKey? =
      ((Json.object filter).leafTexts.map Prod.fst).map some := by
    have hpairs := congrArg (List.map Prod.fst) (map_readKey?_filterPairs hfilter)
    simpa only [List.map_map, Function.comp_def] using hpairs
  refine List.Nodup.of_map readKey? ?_
  rw [hread]
  exact hfilter.nodup_leafTexts.map fun _ _ => Option.some.inj

/-- Filters with the same pairs have the same texts under the same names. -/
theorem sameLeaves_of_perm {filter filter' : Filter} (hfilter : (Json.object filter).WellKeyed)
    (hfilter' : (Json.object filter').WellKeyed)
    (h : (filterPairs filter).Perm (filterPairs filter')) :
    (Json.object filter).SameLeaves (.object filter') := by
  have hread := h.map fun pair => (readKey? pair.1, pair.2)
  rw [map_readKey?_filterPairs hfilter, map_readKey?_filterPairs hfilter'] at hread
  rintro ⟨names, sent⟩
  have hmem := hread.mem_iff (a := (some names, sent))
  simpa using hmem

/-- Filters with the same texts under the same names have the same pairs. -/
theorem perm_of_sameLeaves {filter filter' : Filter} (hfilter : (Json.object filter).WellKeyed)
    (hfilter' : (Json.object filter').WellKeyed)
    (h : (Json.object filter).SameLeaves (.object filter')) :
    (filterPairs filter).Perm (filterPairs filter') := by
  have hperm := (List.perm_ext_iff_of_nodup hfilter.nodup_leafTexts.of_map
    hfilter'.nodup_leafTexts.of_map).mpr h
  rw [filterPairs_eq_leafTexts hfilter, filterPairs_eq_leafTexts hfilter']
  exact hperm.map _

/-- Filters in which no list and no object is empty have the same pairs, but for their order,
exactly if they have the same tree of texts. -/
theorem perm_iff_textTree_eq {filter filter' : Filter}
    (hfilter : (Json.object filter).WellKeyed) (hfilter' : (Json.object filter').WellKeyed)
    (hfilled : ∀ member ∈ filter, member.2.Filled)
    (hfilled' : ∀ member ∈ filter', member.2.Filled) :
    (filterPairs filter).Perm (filterPairs filter') ↔
      (Json.object filter).textTree = (Json.object filter').textTree := by
  have hparts {f : Filter} (h : ∀ member ∈ f, member.2.Filled) :
      ∀ p ∈ (Json.object f).parts, p.2.Filled := by
    intro (step, part) hpart
    obtain ⟨name, -, hmember⟩ := mem_parts_object_iff.mp hpart
    exact h _ hmember
  constructor
  · -- The filters themselves may be empty, so it is their members that are compared.
    intro hperm
    refine (sameLeaves_of_perm hfilter hfilter' hperm).textTree_eq_of_node hfilter hfilter' rfl rfl
      (hparts hfilled) (hparts hfilled') fun (step, part) hpart part' hkeyed hpart' hsame => ?_
    exact hsame.textTree_eq (hfilter.of_mem_parts hpart) (hparts hfilled _ hpart) hkeyed hpart'
  · exact fun htree =>
      perm_of_sameLeaves hfilter hfilter' (sameLeaves_of_textTree_eq hfilter hfilter' htree)

end Wire

namespace Clauses

/-- The name of a clause is not read as the key of a filter. -/
theorem filter_pair_readKey? (name : String) (hname : Wire.readKey? name = none)
    (value : Option String) :
    (pair name value).filter (fun pair => (Wire.readKey? pair.1).isSome) = [] := by
  cases value with
  | none => rfl
  | some v => simp [pair, hname]

/-- Of the pairs of a query those of its filter have keys that are read back. -/
theorem filter_pairs_readKey? {c : Clauses} {filter : Filter} (hc : c.filter = some filter)
    (hfilter : (Json.object filter).WellKeyed) :
    c.pairs.filter (fun pair => (Wire.readKey? pair.1).isSome) = Wire.filterPairs filter := by
  have hown : (Wire.filterPairs filter).filter (fun pair => (Wire.readKey? pair.1).isSome) =
      Wire.filterPairs filter := by
    refine List.filter_eq_self.mpr fun pair hpair => ?_
    rw [Wire.filterPairs_eq_leafTexts hfilter] at hpair
    obtain ⟨leaf, hleaf, rfl⟩ := List.mem_map.mp hpair
    exact Option.isSome_of_eq_some
      (Wire.readKey?_spellKey (Wire.closing_not_mem_names hfilter _ hleaf))
  simp only [pairs, hc, Option.getD_some, List.filter_append, hown,
    filter_pair_readKey? "fields" rfl, filter_pair_readKey? "expand" rfl,
    filter_pair_readKey? "sort" rfl, filter_pair_readKey? "per-page" rfl,
    filter_pair_readKey? "page" rfl, List.nil_append, List.append_nil]

/-- Among the pairs of a query those of its filter are told by their keys. No key is sent twice, and
read back by their brackets the keys are the ways to the leaves of the filter, in the order of the
names and positions, each with the text of its leaf. So of two filters in which no list and no
object is empty the same pairs are sent, in whatever order, exactly if the filters are the same once
each list is an object of its items under their positions, and each leaf is its text. -/
theorem filter_read_back {c : Clauses} {filter : Filter} (hc : c.filter = some filter)
    (hfilter : (Json.object filter).WellKeyed) :
    c.pairs.filter (fun pair => (Wire.readKey? pair.1).isSome) = Wire.filterPairs filter ∧
      ((Wire.filterPairs filter).map Prod.fst).Nodup ∧
      (∃ leaves : List (List Json.Step × Json),
        (∀ path leaf, (path, leaf) ∈ leaves ↔
          (Json.object filter).at? path = some leaf ∧ leaf.isLeaf = true) ∧
        (leaves.Pairwise fun a b => List.Lex Json.Step.Before a.1 b.1) ∧
        (Wire.filterPairs filter).map (fun pair => (Wire.readKey? pair.1, pair.2)) =
          leaves.map fun (path, leaf) => (some (path.map Json.Step.text), Wire.leafText leaf)) ∧
      ∀ filter' : Filter, (Json.object filter').WellKeyed →
        (∀ member ∈ filter, member.2.Filled) → (∀ member ∈ filter', member.2.Filled) →
        ((Wire.filterPairs filter).Perm (Wire.filterPairs filter') ↔
          (Json.object filter).textTree = (Json.object filter').textTree) := by
  refine ⟨filter_pairs_readKey? hc hfilter, Wire.nodup_filterPairs hfilter,
    ⟨_, fun path leaf => hfilter.mem_leaves_iff, hfilter.leaves_increasing, ?_⟩,
    fun filter' hfilter' hfilled hfilled' =>
      Wire.perm_iff_textTree_eq hfilter hfilter' hfilled hfilled'⟩
  rw [Wire.map_readKey?_filterPairs hfilter, Json.leafTexts, List.map_map]
  rfl

/-- A filter with a name that is empty and a list with positions of two digits is sent like one that
has an object in place of the list, but in another order. -/
theorem filter_read_back_positions :
    let items : List Json := .bool true :: List.replicate 10 .null
    let members : List (String × Json) :=
      [("0", .text "1"), ("1", .text ""), ("10", .null), ("2", .null), ("3", .null), ("4", .null),
        ("5", .null), ("6", .null), ("7", .null), ("8", .null), ("9", .null)]
    let filter : Filter := [("", .object [("in", .list items)]), ("id", .nat 7)]
    let filter' : Filter := [("", .object [("in", .object members)]), ("id", .text "7")]
    let c : Clauses := { filter := some filter, sort := some "-id" }
    (Json.object filter).WellKeyed ∧
      c.pairs.filter (fun pair => (Wire.readKey? pair.1).isSome) = Wire.filterPairs filter ∧
      ((Wire.filterPairs filter).map Prod.fst).Nodup ∧
      (Wire.filterPairs filter).Perm (Wire.filterPairs filter') := by
  intro items members filter filter' c
  have hitems : ∀ item ∈ items, item.isLeaf = true := by decide
  have hmembers : ∀ member ∈ members, member.2.isLeaf = true := by decide
  -- Around the list, or the object, the two filters are alike.
  have hkeyed {value number : Json} (h : value.WellKeyed) (hnumber : number.isLeaf = true) :
      (Json.object [("", .object [("in", value)]), ("id", number)]).WellKeyed := by
    have hinner : (Json.object [("in", value)]).WellKeyed :=
      .object (List.pairwise_singleton _ _) (by simp) (List.forall_mem_singleton.mpr h)
    refine .object ?_ (by simp) (List.forall_mem_cons.mpr
      ⟨hinner, List.forall_mem_singleton.mpr (.leaf hnumber)⟩)
    show List.Pairwise (· < ·) ["", "id"]
    decide
  have hfull {value number : Json} (h : value.Filled) (hnumber : number.isLeaf = true) :
      ∀ member ∈ [("", Json.object [("in", value)]), ("id", number)], member.2.Filled :=
    List.forall_mem_cons.mpr ⟨.object (List.cons_ne_nil _ _) (List.forall_mem_singleton.mpr h),
      List.forall_mem_singleton.mpr (.leaf hnumber)⟩
  have hlist : (Json.list items).WellKeyed := .list fun item hitem => .leaf (hitems item hitem)
  have hobject : (Json.object members).WellKeyed :=
    .object (by unfold KeyMap.Ordered; decide) (by decide)
      fun member hmember => .leaf (hmembers member hmember)
  have hfilter : (Json.object filter).WellKeyed := hkeyed hlist rfl
  have hfilter' : (Json.object filter').WellKeyed := hkeyed hobject rfl
  have hfilled : ∀ member ∈ filter, member.2.Filled :=
    hfull (.list (List.cons_ne_nil _ _) fun item hitem => .leaf (hitems item hitem)) rfl
  have hfilled' : ∀ member ∈ filter', member.2.Filled :=
    hfull (.object (List.cons_ne_nil _ _) fun member hmember => .leaf (hmembers member hmember)) rfl
  have hc : c.filter = some filter := rfl
  obtain ⟨hown, hkeys, -, halike⟩ := filter_read_back hc hfilter
  exact ⟨hfilter, hown, hkeys, (halike filter' hfilter' hfilled hfilled').mpr (by decide)⟩

end Clauses

end RestQuery
