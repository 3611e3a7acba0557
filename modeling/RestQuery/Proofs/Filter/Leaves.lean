import Mathlib.Data.List.Nodup
import RestQuery.Proofs.Filter.Criteria

/-!
# The leaves of a value

A value of JSON is a tree. `Json.parts` lists what stands right below an object or a list, in order
and each under the step that leads to it: members by their names, items by their positions.
`Json.leaves` goes on to the values without parts. Three facts determine this list: it has the
leaves that some steps lead to (`mem_leaves_iff`), in the order of the steps (`leaves_increasing`),
and as long as the members of each object are in order, that makes it the only such list.

What is sent of a value forgets the kinds of its leaves, and whether a step leads to an item or to a
member of that name. `Json.textTree` is what is left: values with the same tree have the same texts
under the same names (`sameLeaves_of_textTree_eq`), and where no list and no object is empty, values
with the same texts have the same tree (`SameLeaves.textTree_eq`).
-/

namespace RestQuery

namespace Json

/-- One step down in a value. -/
inductive Step where
  /-- To a member of an object. -/
  | member (name : String)
  /-- To an item of a list. -/
  | item (position : Nat)

namespace Step

/-- What a step is called. -/
def text : Step → String
  | .member name => name
  | .item position => toString position

/-- Whether a step comes before another one from the same value. -/
def Before : Step → Step → Prop
  | .member name, .member name' => name < name'
  | .item position, .item position' => position < position'
  | .member _, .item _ => False
  | .item _, .member _ => False

/-- Steps of which one comes before the other are not called the same. -/
theorem Before.text_ne {s s' : Step} (h : s.Before s') : s.text ≠ s'.text := by
  cases s with
  | member name =>
    cases s' with
    | member name' =>
      rintro rfl
      exact String.lt_irrefl name h
    | item position' => cases h
  | item position =>
    cases s' with
    | member name' => cases h
    | item position' =>
      intro htext
      exact Nat.ne_of_lt h (Text.toString_injective htext)

end Step

/-! ## Values as trees -/

/-- What stands right below a value, in order, each under the step to it. -/
def parts : Json → List (Step × Json)
  | .object members => members.map fun (name, value) => (.member name, value)
  | .list items => items.mapIdx fun position item => (.item position, item)
  | .null | .bool _ | .number _ | .text _ => []

/-- What a step leads to. -/
def part? : Json → Step → Option Json
  | .object members, .member name => KeyMap.get? members name
  | .list items, .item position => items[position]?
  | _, _ => none

/-- What some steps lead to. -/
def at? : Json → List Step → Option Json
  | value, [] => some value
  | value, step :: rest => (value.part? step).bind (at? · rest)

mutual

/-- The values without parts in a value, in order, each under the steps to it. -/
def leaves : Json → List (List Step × Json)
  | .object members => leavesOfMembers members
  | .list items => leavesOfItems 0 items
  | leaf => [([], leaf)]

/-- The leaves of the members of an object. -/
def leavesOfMembers : List (String × Json) → List (List Step × Json)
  | [] => []
  | (name, value) :: rest =>
    (leaves value).map (fun (path, leaf) => (.member name :: path, leaf)) ++ leavesOfMembers rest

/-- The leaves of the items of a list, the first of which has the given position. -/
def leavesOfItems (position : Nat) : List Json → List (List Step × Json)
  | [] => []
  | item :: rest =>
    (leaves item).map (fun (path, leaf) => (.item position :: path, leaf)) ++
      leavesOfItems (position + 1) rest

end

mutual

/-- A value of which only what is sent is left: each list is the object of its items under their
positions, and each leaf is its text. -/
def textTree : Json → Json
  | .object members => .ofMembers (textTreesOfMembers members)
  | .list items => .ofMembers (textTreesOfItems 0 items)
  | leaf => .text (Wire.leafText leaf)

def textTreesOfMembers : List (String × Json) → List (String × Json)
  | [] => []
  | (name, value) :: rest => (name, textTree value) :: textTreesOfMembers rest

def textTreesOfItems (position : Nat) : List Json → List (String × Json)
  | [] => []
  | item :: rest => (toString position, textTree item) :: textTreesOfItems (position + 1) rest

end

/-- Whether the members of each object in a value are in order, and no name has a closing bracket.
An opening bracket does no harm. -/
inductive WellKeyed : Json → Prop where
  | leaf {value : Json} (h : value.isLeaf = true) : WellKeyed value
  | list {items : List Json} (h : ∀ item ∈ items, WellKeyed item) : WellKeyed (.list items)
  | object {members : List (String × Json)} (hordered : KeyMap.Ordered members)
      (hnames : ∀ member ∈ members, ']' ∉ member.1.toList)
      (h : ∀ member ∈ members, WellKeyed member.2) : WellKeyed (.object members)

/-- Whether a value is neither an empty list or object nor has one in it. -/
inductive Filled : Json → Prop where
  | leaf {value : Json} (h : value.isLeaf = true) : Filled value
  | list {items : List Json} (hne : items ≠ []) (h : ∀ item ∈ items, Filled item) :
      Filled (.list items)
  | object {members : List (String × Json)} (hne : members ≠ [])
      (h : ∀ member ∈ members, Filled member.2) : Filled (.object members)

variable {v v' part : Json} {s s' : Step} {path : List Step}

/-! ## The parts of a value -/

/-- A part of a list is one of its items, under its position. -/
theorem mem_parts_list_iff {items : List Json} :
    (s, part) ∈ (Json.list items).parts ↔
      ∃ position, s = .item position ∧ items[position]? = some part := by
  simp only [parts, List.mem_mapIdx, Prod.mk.injEq]
  constructor
  · rintro ⟨position, hlt, rfl, rfl⟩
    exact ⟨position, rfl, List.getElem?_eq_getElem hlt⟩
  · rintro ⟨position, rfl, hitem⟩
    obtain ⟨hlt, hitem⟩ := List.getElem?_eq_some_iff.mp hitem
    exact ⟨position, hlt, rfl, hitem⟩

/-- A part of an object is one of its members, under its name. -/
theorem mem_parts_object_iff {members : List (String × Json)} :
    (s, part) ∈ (Json.object members).parts ↔
      ∃ name, s = .member name ∧ (name, part) ∈ members := by
  simp only [parts, List.mem_map, Prod.mk.injEq, Prod.exists]
  constructor
  · rintro ⟨name, value, hmember, rfl, rfl⟩
    exact ⟨name, rfl, hmember⟩
  · rintro ⟨name, rfl, hmember⟩
    exact ⟨name, part, hmember, rfl, rfl⟩

/-- What is collected from one member of an object after another is collected from its parts. -/
theorem eq_flatMap_members {β : Type} {f : List (String × Json) → List β}
    {g : Step × Json → List β} (hnil : f [] = [])
    (hcons : ∀ name value rest, f ((name, value) :: rest) = g (.member name, value) ++ f rest)
    (members : List (String × Json)) : f members = (Json.object members).parts.flatMap g := by
  induction members with
  | nil => exact hnil
  | cons member rest ih =>
    rw [hcons, ih]
    rfl

/-- What is collected from one item of a list after another is collected from its parts. -/
theorem eq_flatMap_items {β : Type} {f : Nat → List Json → List β} {g : Step × Json → List β}
    (hnil : ∀ position, f position [] = [])
    (hcons : ∀ position item rest,
      f position (item :: rest) = g (.item position, item) ++ f (position + 1) rest)
    (items : List Json) : f 0 items = (Json.list items).parts.flatMap g := by
  -- The induction is over lists that start at any position.
  have hfrom : ∀ position, f position items =
      (items.mapIdx fun n item => (Step.item (position + n), item)).flatMap g := by
    induction items with
    | nil => exact hnil
    | cons item rest ih =>
      intro position
      rw [hcons, ih, List.mapIdx_cons, List.flatMap_cons]
      simp only [Nat.add_zero, Nat.add_assoc, Nat.add_comm 1]
  rw [hfrom, parts]
  simp only [Nat.zero_add]

/-- A leaf has no parts. -/
theorem parts_of_isLeaf (h : v.isLeaf = true) : v.parts = [] := by
  cases v with
  | list items => cases h
  | object members => cases h
  | _ => rfl

/-- A step from a leaf leads nowhere. -/
theorem part?_of_isLeaf (h : v.isLeaf = true) (step : Step) : v.part? step = none := by
  cases v with
  | list items => cases h
  | object members => cases h
  | _ => rfl

/-- The parts of a value are those that the steps lead to. -/
theorem WellKeyed.mem_parts_iff (hv : v.WellKeyed) :
    (s, part) ∈ v.parts ↔ v.part? s = some part := by
  cases hv with
  | leaf h =>
    rw [parts_of_isLeaf h, part?_of_isLeaf h]
    exact ⟨nofun, nofun⟩
  | @list items h =>
    rw [mem_parts_list_iff]
    cases s with
    | member name => simp [part?]
    | item position => simp [part?]
  | @object members hordered hnames h =>
    rw [mem_parts_object_iff]
    cases s with
    | member name => simpa [part?] using KeyMap.mem_iff_get? hordered.nodup
    | item position => simp [part?]

theorem WellKeyed.of_mem_parts (hv : v.WellKeyed) (hpart : (s, part) ∈ v.parts) :
    part.WellKeyed := by
  cases hv with
  | leaf h =>
    rw [parts_of_isLeaf h] at hpart
    cases hpart
  | list h =>
    obtain ⟨position, -, hitem⟩ := mem_parts_list_iff.mp hpart
    exact h part (List.mem_of_getElem? hitem)
  | object hordered hnames h =>
    obtain ⟨name, -, hmember⟩ := mem_parts_object_iff.mp hpart
    exact h _ hmember

theorem Filled.of_mem_parts (hv : v.Filled) (hpart : (s, part) ∈ v.parts) : part.Filled := by
  cases hv with
  | leaf h =>
    rw [parts_of_isLeaf h] at hpart
    cases hpart
  | list hne h =>
    obtain ⟨position, -, hitem⟩ := mem_parts_list_iff.mp hpart
    exact h part (List.mem_of_getElem? hitem)
  | object hne h =>
    obtain ⟨name, -, hmember⟩ := mem_parts_object_iff.mp hpart
    exact h _ hmember

/-- A list or an object that is not empty has parts. -/
theorem Filled.parts_ne_nil (hv : v.Filled) (hnode : v.isLeaf = false) : v.parts ≠ [] := by
  cases hv with
  | leaf h => rw [h] at hnode; cases hnode
  | list hne h => simpa [parts] using hne
  | object hne h => simpa [parts] using hne

/-- The parts are in the order of the steps to them. -/
theorem WellKeyed.parts_increasing (hv : v.WellKeyed) :
    v.parts.Pairwise fun a b => a.1.Before b.1 := by
  cases hv with
  | leaf h =>
    rw [parts_of_isLeaf h]
    exact .nil
  | @list items h =>
    rw [parts, List.pairwise_iff_getElem]
    intro i j hi hj hlt
    rw [List.getElem_mapIdx, List.getElem_mapIdx]
    exact hlt
  | @object members hordered hnames h =>
    rw [parts, List.pairwise_map]
    exact (List.pairwise_map.mp hordered :)

/-- What holds of leaves, and of a list or an object if it does of the parts, holds of every value.
-/
theorem WellKeyed.byParts {motive : (v : Json) → v.WellKeyed → Prop}
    (leaf : ∀ v (hv : v.WellKeyed), v.isLeaf = true → motive v hv)
    (node : ∀ v (hv : v.WellKeyed), v.isLeaf = false →
      (∀ s part (hpart : (s, part) ∈ v.parts), motive part (hv.of_mem_parts hpart)) → motive v hv)
    {v : Json} (hv : v.WellKeyed) : motive v hv := by
  induction hv with
  | leaf h => exact leaf _ _ h
  | list h ih =>
    refine node _ (.list h) rfl fun s part hpart => ?_
    obtain ⟨position, -, hitem⟩ := mem_parts_list_iff.mp hpart
    exact ih part (List.mem_of_getElem? hitem)
  | object hordered hnames h ih =>
    refine node _ (.object hordered hnames h) rfl fun s part hpart => ?_
    obtain ⟨name, -, hmember⟩ := mem_parts_object_iff.mp hpart
    exact ih _ hmember

/-- No part has a closing bracket in its name. -/
theorem WellKeyed.closing_not_mem (hv : v.WellKeyed) (hpart : (s, part) ∈ v.parts) :
    ']' ∉ s.text.toList := by
  cases hv with
  | leaf h =>
    rw [parts_of_isLeaf h] at hpart
    cases hpart
  | list h =>
    obtain ⟨position, rfl, -⟩ := mem_parts_list_iff.mp hpart
    intro hclosing
    rw [Step.text, Nat.toString_eq_repr, Nat.toList_repr] at hclosing
    exact absurd (Text.isDigit_of_mem_toDigits hclosing) (by decide)
  | object hordered hnames h =>
    obtain ⟨name, rfl, hmember⟩ := mem_parts_object_iff.mp hpart
    exact hnames _ hmember

/-! ## The leaves of a value -/

theorem leaves_of_isLeaf (h : v.isLeaf = true) : v.leaves = [([], v)] := by
  cases v with
  | list items => cases h
  | object members => cases h
  | _ => simp only [leaves]

/-- The leaves of a list or an object are those of its parts. -/
theorem leaves_of_node (h : v.isLeaf = false) :
    v.leaves = v.parts.flatMap fun (step, part) =>
      part.leaves.map fun (path, leaf) => (step :: path, leaf) := by
  cases v with
  | object members =>
    rw [leaves]
    exact eq_flatMap_members (by rw [leavesOfMembers]) (fun _ _ _ => by rw [leavesOfMembers]) _
  | list items =>
    rw [leaves]
    exact eq_flatMap_items (fun _ => by rw [leavesOfItems]) (fun _ _ _ => by rw [leavesOfItems]) _
  | _ => cases h

/-- A leaf of a list or an object is one of a part. -/
theorem mem_leaves_of_node {leaf : Json} (h : v.isLeaf = false) :
    (path, leaf) ∈ v.leaves ↔ ∃ step part rest,
      (step, part) ∈ v.parts ∧ (rest, leaf) ∈ part.leaves ∧ path = step :: rest := by
  rw [leaves_of_node h]
  simp only [List.mem_flatMap, List.mem_map, Prod.mk.injEq, Prod.exists]
  constructor
  · rintro ⟨step, part, hpart, rest, leaf, hleaf, rfl, rfl⟩
    exact ⟨step, part, rest, hpart, hleaf, rfl⟩
  · rintro ⟨step, part, rest, hpart, hleaf, rfl⟩
    exact ⟨step, part, hpart, rest, leaf, hleaf, rfl, rfl⟩

/-- The leaves of a value are the leaves that some steps lead to. -/
theorem WellKeyed.mem_leaves_iff (hv : v.WellKeyed) {path : List Step} {leaf : Json} :
    (path, leaf) ∈ v.leaves ↔ v.at? path = some leaf ∧ leaf.isLeaf = true := by
  -- The induction is on the way, and goes on in the part that the first step leads to.
  induction path generalizing v with
  | nil =>
    rw [at?, Option.some.injEq]
    cases hnode : v.isLeaf with
    | true =>
      rw [leaves_of_isLeaf hnode, List.mem_singleton, Prod.mk.injEq]
      constructor
      · rintro ⟨-, rfl⟩
        exact ⟨rfl, hnode⟩
      · rintro ⟨rfl, -⟩
        exact ⟨rfl, rfl⟩
    | false =>
      rw [mem_leaves_of_node hnode]
      constructor
      · rintro ⟨_, _, _, _, _, hpath⟩
        cases hpath
      · rintro ⟨rfl, hleaf⟩
        rw [hnode] at hleaf
        cases hleaf
  | cons step rest ih =>
    rw [at?]
    cases hnode : v.isLeaf with
    | true =>
      rw [leaves_of_isLeaf hnode, part?_of_isLeaf hnode]
      simp
    | false =>
      rw [mem_leaves_of_node hnode]
      constructor
      · rintro ⟨step', part, rest', hpart, hleaf, hpath⟩
        obtain ⟨rfl, rfl⟩ := List.cons.inj hpath
        rw [hv.mem_parts_iff.mp hpart]
        exact (ih (hv.of_mem_parts hpart)).mp hleaf
      · rintro ⟨hat, hleaf⟩
        obtain ⟨part, hpart, hat⟩ := Option.bind_eq_some_iff.mp hat
        have hpart := hv.mem_parts_iff.mpr hpart
        exact ⟨step, part, rest, hpart, (ih (hv.of_mem_parts hpart)).mpr ⟨hat, hleaf⟩, rfl⟩

/-- The leaves are in the order of the steps to them. -/
theorem WellKeyed.leaves_increasing (hv : v.WellKeyed) :
    v.leaves.Pairwise fun a b => List.Lex Step.Before a.1 b.1 := by
  induction hv using WellKeyed.byParts with
  | leaf v hv h =>
    rw [leaves_of_isLeaf h]
    exact List.pairwise_singleton _ _
  | node v hv h ih =>
    rw [leaves_of_node h, List.pairwise_flatMap]
    -- Leaves of one part are told apart behind its step, leaves of two parts by their first steps.
    refine ⟨fun (step, part) hpart => ?_, hv.parts_increasing.imp ?_⟩
    · rw [List.pairwise_map]
      exact (ih step part hpart).imp List.Lex.cons
    · intro (step, part) (step', part') hbefore a ha b hb
      obtain ⟨leaf, -, rfl⟩ := List.mem_map.mp ha
      obtain ⟨leaf', -, rfl⟩ := List.mem_map.mp hb
      exact List.Lex.rel hbefore

/-- Ways of which one comes before the other are not called the same. -/
theorem texts_ne_of_lex {path path' : List Step} (h : List.Lex Step.Before path path') :
    path.map Step.text ≠ path'.map Step.text := by
  induction h with
  | nil => exact nofun
  | cons h ih => exact fun htexts => ih (List.cons.inj htexts).2
  | rel h => exact fun htexts => h.text_ne (List.cons.inj htexts).1

/-! ## The texts of the leaves -/

/-- The texts of the leaves of a value, in order, each under the names of the steps to it. -/
def leafTexts (v : Json) : List (List String × String) :=
  v.leaves.map fun (path, leaf) => (path.map Step.text, Wire.leafText leaf)

/-- No two leaves stand under the same names. -/
theorem WellKeyed.nodup_leafTexts (hv : v.WellKeyed) : (v.leafTexts.map Prod.fst).Nodup := by
  rw [leafTexts, List.map_map, List.Nodup, List.pairwise_map]
  exact hv.leaves_increasing.imp texts_ne_of_lex

theorem leafTexts_of_isLeaf (h : v.isLeaf = true) :
    v.leafTexts = [([], Wire.leafText v)] := by
  rw [leafTexts, leaves_of_isLeaf h]
  rfl

/-- The texts of a list or an object are those of its parts. -/
theorem leafTexts_of_node (h : v.isLeaf = false) :
    v.leafTexts = v.parts.flatMap fun (step, part) =>
      part.leafTexts.map fun (names, sent) => (step.text :: names, sent) := by
  simp only [leafTexts, leaves_of_node h, List.map_flatMap, List.map_map]
  rfl

/-- A text in a list or an object is one in a part. -/
theorem mem_leafTexts_of_node {names : List String} {sent : String} (h : v.isLeaf = false) :
    (names, sent) ∈ v.leafTexts ↔ ∃ step part rest,
      (step, part) ∈ v.parts ∧ (rest, sent) ∈ part.leafTexts ∧ names = step.text :: rest := by
  rw [leafTexts_of_node h]
  simp only [List.mem_flatMap, List.mem_map, Prod.mk.injEq, Prod.exists]
  constructor
  · rintro ⟨step, part, hpart, rest, sent, hsent, rfl, rfl⟩
    exact ⟨step, part, rest, hpart, hsent, rfl⟩
  · rintro ⟨step, part, rest, hpart, hsent, rfl⟩
    exact ⟨step, part, hpart, rest, sent, hsent, rfl, rfl⟩

/-- Where no list and no object is empty, there is a leaf. -/
theorem WellKeyed.leafTexts_ne_nil (hv : v.WellKeyed) (hfilled : v.Filled) :
    ∃ names sent, (names, sent) ∈ v.leafTexts := by
  induction hv using WellKeyed.byParts with
  | leaf v hv h => exact ⟨_, _, leafTexts_of_isLeaf h ▸ List.mem_singleton_self _⟩
  | node v hv h ih =>
    obtain ⟨⟨s, part⟩, hpart⟩ := List.exists_mem_of_ne_nil _ (hfilled.parts_ne_nil h)
    obtain ⟨names, sent, hsent⟩ := ih s part hpart (hfilled.of_mem_parts hpart)
    exact ⟨_, _, (mem_leafTexts_of_node h).mpr ⟨s, part, names, hpart, hsent, rfl⟩⟩

/-- The parts of a value are not called the same. -/
theorem WellKeyed.nodup_names (hv : v.WellKeyed) : (v.parts.map fun p => p.1.text).Nodup := by
  rw [List.Nodup, List.pairwise_map]
  exact hv.parts_increasing.imp Step.Before.text_ne

/-- Parts of one value that are called the same are the same. -/
theorem WellKeyed.part_unique (hv : v.WellKeyed) {part' : Json} (hpart : (s, part) ∈ v.parts)
    (hpart' : (s', part') ∈ v.parts) (hname : s'.text = s.text) : part' = part :=
  congrArg Prod.snd (List.inj_on_of_nodup_map hv.nodup_names hpart' hpart hname)

/-- Whether two values have the same texts under the same names. -/
def SameLeaves (v v' : Json) : Prop := ∀ leaf, leaf ∈ v.leafTexts ↔ leaf ∈ v'.leafTexts

theorem SameLeaves.symm (h : v.SameLeaves v') : v'.SameLeaves v := fun leaf => (h leaf).symm

/-- The texts of a part are those that stand under its name. -/
theorem WellKeyed.mem_leafTexts_part_iff (hv : v.WellKeyed) (hnode : v.isLeaf = false)
    (hpart : (s, part) ∈ v.parts) {names : List String} {sent : String} :
    (names, sent) ∈ part.leafTexts ↔ (s.text :: names, sent) ∈ v.leafTexts := by
  rw [mem_leafTexts_of_node hnode]
  constructor
  · exact fun hsent => ⟨s, part, names, hpart, hsent, rfl⟩
  · rintro ⟨s', part', _, hpart', hsent, hnames⟩
    obtain ⟨hname, rfl⟩ := List.cons.inj hnames
    rwa [← hv.part_unique hpart hpart' hname.symm]

/-- If two lists or objects have the same texts, each part of one that has any is called like a part
of the other that has the same. -/
theorem SameLeaves.exists_part (h : v.SameLeaves v') (hv : v.WellKeyed) (hv' : v'.WellKeyed)
    (hnode : v.isLeaf = false) (hnode' : v'.isLeaf = false) (hpart : (s, part) ∈ v.parts)
    (hfilled : part.Filled) :
    ∃ s' part', (s', part') ∈ v'.parts ∧ s'.text = s.text ∧ part.SameLeaves part' := by
  -- Some text of the part tells which part of the other value is called the same.
  obtain ⟨names, sent, hsent⟩ := (hv.of_mem_parts hpart).leafTexts_ne_nil hfilled
  have hthere := (h _).mp ((hv.mem_leafTexts_part_iff hnode hpart).mp hsent)
  obtain ⟨s', part', _, hpart', -, hnames⟩ := (mem_leafTexts_of_node hnode').mp hthere
  have hname : s.text = s'.text := (List.cons.inj hnames).1
  refine ⟨s', part', hpart', hname.symm, fun (names, sent) => ?_⟩
  rw [hv.mem_leafTexts_part_iff hnode hpart, hv'.mem_leafTexts_part_iff hnode' hpart', ← hname]
  exact h _

/-! ## The tree of texts -/

theorem textTree_of_isLeaf (h : v.isLeaf = true) : v.textTree = .text (Wire.leafText v) := by
  cases v with
  | list items => cases h
  | object members => cases h
  | _ => simp only [textTree]

/-- The trees of the parts of a value, under their names. -/
def partTrees (v : Json) : List (String × Json) :=
  v.parts.map fun (step, part) => (step.text, part.textTree)

theorem textTree_of_node (h : v.isLeaf = false) : v.textTree = .ofMembers v.partTrees := by
  rw [partTrees, List.map_eq_flatMap]
  cases v with
  | object members =>
    rw [textTree]
    exact congrArg Json.ofMembers (eq_flatMap_members (by rw [textTreesOfMembers])
      (fun _ _ _ => by rw [textTreesOfMembers]; rfl) _)
  | list items =>
    rw [textTree]
    exact congrArg Json.ofMembers (eq_flatMap_items (fun _ => by rw [textTreesOfItems])
      (fun _ _ _ => by rw [textTreesOfItems]; rfl) _)
  | _ => cases h

theorem mem_partTrees_iff {name : String} {tree : Json} :
    (name, tree) ∈ v.partTrees ↔
      ∃ s part, (s, part) ∈ v.parts ∧ s.text = name ∧ part.textTree = tree := by
  simp only [partTrees, List.mem_map, Prod.mk.injEq, Prod.exists]

theorem WellKeyed.nodup_partTrees (hv : v.WellKeyed) : (v.partTrees.map Prod.fst).Nodup := by
  rw [partTrees, List.map_map]
  exact hv.nodup_names

/-- A list or an object has the same tree as another one that has parts with the same names and
trees. -/
theorem textTree_eq_of_parts (hv : v.WellKeyed) (hv' : v'.WellKeyed) (hnode : v.isLeaf = false)
    (hnode' : v'.isLeaf = false) (h : ∀ member, member ∈ v.partTrees ↔ member ∈ v'.partTrees) :
    v.textTree = v'.textTree := by
  rw [textTree_of_node hnode, textTree_of_node hnode', ofMembers, ofMembers]
  refine congrArg Json.object (KeyMap.ext (KeyMap.ordered_ofEntries _)
    (KeyMap.ordered_ofEntries _) fun name => Option.ext fun tree => ?_)
  rw [KeyMap.get?_ofEntries hv.nodup_partTrees, KeyMap.get?_ofEntries hv'.nodup_partTrees,
    ← KeyMap.mem_iff_get? hv.nodup_partTrees, ← KeyMap.mem_iff_get? hv'.nodup_partTrees]
  exact h _

/-- Two lists or objects have the same tree if they have the same texts, and their parts do so. -/
theorem SameLeaves.textTree_eq_of_node (h : v.SameLeaves v') (hv : v.WellKeyed)
    (hv' : v'.WellKeyed) (hnode : v.isLeaf = false) (hnode' : v'.isLeaf = false)
    (hfilled : ∀ p ∈ v.parts, p.2.Filled) (hfilled' : ∀ p ∈ v'.parts, p.2.Filled)
    (hparts : ∀ p ∈ v.parts, ∀ part' : Json, part'.WellKeyed → part'.Filled →
      p.2.SameLeaves part' → p.2.textTree = part'.textTree) : v.textTree = v'.textTree := by
  refine textTree_eq_of_parts hv hv' hnode hnode' fun (name, tree) => ?_
  rw [mem_partTrees_iff, mem_partTrees_iff]
  constructor
  · rintro ⟨s, part, hpart, rfl, rfl⟩
    obtain ⟨s', part', hpart', hname, hsame⟩ :=
      h.exists_part hv hv' hnode hnode' hpart (hfilled _ hpart)
    exact ⟨s', part', hpart', hname,
      (hparts _ hpart part' (hv'.of_mem_parts hpart') (hfilled' _ hpart') hsame).symm⟩
  · rintro ⟨s', part', hpart', rfl, rfl⟩
    obtain ⟨s, part, hpart, hname, hsame⟩ :=
      h.symm.exists_part hv' hv hnode' hnode hpart' (hfilled' _ hpart')
    exact ⟨s, part, hpart, hname,
      hparts _ hpart part' (hv'.of_mem_parts hpart') (hfilled' _ hpart') hsame.symm⟩

/-- A leaf has no text under the name of a part. -/
theorem SameLeaves.isLeaf_of_isLeaf (h : v.SameLeaves v') (hleaf : v.isLeaf = true) :
    v'.isLeaf = true := by
  have htext : ([], Wire.leafText v) ∈ v'.leafTexts :=
    (h _).mp (leafTexts_of_isLeaf hleaf ▸ List.mem_singleton_self _)
  cases hnode : v'.isLeaf with
  | true => rfl
  | false =>
    obtain ⟨_, _, _, -, -, hnames⟩ := (mem_leafTexts_of_node hnode).mp htext
    cases hnames

/-- Values in which no list and no object is empty have the same tree if they have the same texts.
-/
theorem SameLeaves.textTree_eq (h : v.SameLeaves v') (hv : v.WellKeyed) (hfilled : v.Filled)
    (hv' : v'.WellKeyed) (hfilled' : v'.Filled) : v.textTree = v'.textTree := by
  -- The induction is on the first value; a part of it is compared with the part of the second that
  -- is called the same.
  induction hv using WellKeyed.byParts generalizing v' with
  | leaf v hv hleaf =>
    have hleaf' := h.isLeaf_of_isLeaf hleaf
    have htext := (h ([], Wire.leafText v)).mp
      (leafTexts_of_isLeaf hleaf ▸ List.mem_singleton_self _)
    rw [leafTexts_of_isLeaf hleaf', List.mem_singleton, Prod.mk.injEq] at htext
    rw [textTree_of_isLeaf hleaf, textTree_of_isLeaf hleaf', htext.2]
  | node v hv hnode ih =>
    have hnode' : v'.isLeaf = false := by
      cases hleaf' : v'.isLeaf with
      | true => exact (h.symm.isLeaf_of_isLeaf hleaf').symm.trans hnode
      | false => rfl
    exact h.textTree_eq_of_node hv hv' hnode hnode' (fun p => hfilled.of_mem_parts)
      (fun p => hfilled'.of_mem_parts) fun (s, part) hpart part' hkeyed hpart' hsame =>
        ih s part hpart hsame (hfilled.of_mem_parts hpart) hkeyed hpart'

/-- The tree of a value has the texts that the value has. -/
theorem WellKeyed.sameLeaves_textTree (hv : v.WellKeyed) : v.textTree.SameLeaves v := by
  induction hv using WellKeyed.byParts with
  | leaf v hv h =>
    intro leaf
    rw [textTree_of_isLeaf h, leafTexts_of_isLeaf h]
    rfl
  | node v hv h ih =>
    rintro ⟨names, sent⟩
    have hmembers (member : String × Json) :
        member ∈ KeyMap.ofEntries v.partTrees ↔ member ∈ v.partTrees :=
      (KeyMap.ofEntries_perm hv.nodup_partTrees).mem_iff
    rw [textTree_of_node h, ofMembers, mem_leafTexts_of_node rfl, mem_leafTexts_of_node h]
    constructor
    · rintro ⟨_, tree, rest, htree, hsent, rfl⟩
      obtain ⟨name, rfl, hmember⟩ := mem_parts_object_iff.mp htree
      obtain ⟨s, part, hpart, rfl, rfl⟩ := mem_partTrees_iff.mp ((hmembers _).mp hmember)
      exact ⟨s, part, rest, hpart, (ih s part hpart _).mp hsent, rfl⟩
    · rintro ⟨s, part, rest, hpart, hsent, rfl⟩
      refine ⟨.member s.text, part.textTree, rest, ?_, (ih s part hpart _).mpr hsent, rfl⟩
      exact mem_parts_object_iff.mpr
        ⟨_, rfl, (hmembers _).mpr (mem_partTrees_iff.mpr ⟨s, part, hpart, rfl, rfl⟩)⟩

/-- Values have the same texts if they have the same tree. -/
theorem sameLeaves_of_textTree_eq (hv : v.WellKeyed) (hv' : v'.WellKeyed)
    (h : v.textTree = v'.textTree) : v.SameLeaves v' := by
  intro leaf
  rw [← hv.sameLeaves_textTree leaf, h, hv'.sameLeaves_textTree leaf]

end Json

end RestQuery
