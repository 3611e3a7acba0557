import RestQuery.Filter.Wire
import RestQuery.Proofs.Filter.Meaning

/-!
# What is sent of a filter

A filter is sent as the pairs of its comparisons, one after another (`Wire.flattenMembers_eq`), and
the comparisons of a compiled filter are those of the condition, with their parameters replaced
(`Condition.makes_of_compile`). A comparison is sent as no pair at all exactly if its value is
hollow: lists and objects that hold nothing but such (`Wire.flatten_eq_nil_iff`).

A membership in no value is no filter, but values may become hollow when parameters are replaced,
after that was looked at. Then the comparison is lost on the way, and with it perhaps all that the
filter says; `Condition.sent_of_compile` tells when.
-/

namespace RestQuery

namespace Json

mutual

/-- Whether a value is a list or an object that holds nothing but such. -/
def isHollow : Json → Bool
  | .object members => hollowMembers members
  | .list items => hollowItems items
  | .null | .bool _ | .number _ | .text _ => false

/-- Whether all members of an object are hollow. -/
def hollowMembers : List (String × Json) → Bool
  | [] => true
  | (_, value) :: rest => isHollow value && hollowMembers rest

/-- Whether all items of a list are hollow. -/
def hollowItems : List Json → Bool
  | [] => true
  | item :: rest => isHollow item && hollowItems rest

end

end Json

namespace Wire

mutual

/-- A value leaves no pair exactly if it is hollow. -/
theorem flatten_eq_nil_iff {key : String} : ∀ {value : Json},
    flatten key value = [] ↔ value.isHollow = true
  | .object members => by
    rw [flatten, Json.isHollow]
    exact flattenMembers_eq_nil_iff
  | .list items => by
    rw [flatten, Json.isHollow]
    exact flattenItems_eq_nil_iff
  | .bool true => by simp [flatten, Json.isHollow]
  | .bool false => by simp [flatten, Json.isHollow]
  | .null => by simp [flatten, Json.isHollow]
  | .text _ => by simp [flatten, Json.isHollow]
  | .number _ => by simp [flatten, Json.isHollow]

theorem flattenMembers_eq_nil_iff {key : String} : ∀ {members : List (String × Json)},
    flattenMembers key members = [] ↔ Json.hollowMembers members = true
  | [] => by simp [flattenMembers, Json.hollowMembers]
  | (name, value) :: rest => by
    rw [flattenMembers, List.append_eq_nil_iff, flatten_eq_nil_iff, flattenMembers_eq_nil_iff,
      Json.hollowMembers, Bool.and_eq_true]

theorem flattenItems_eq_nil_iff {key : String} : ∀ {items : List Json} {index : Nat},
    flattenItems key index items = [] ↔ Json.hollowItems items = true
  | [], _ => by simp [flattenItems, Json.hollowItems]
  | item :: rest, index => by
    rw [flattenItems, List.append_eq_nil_iff, flatten_eq_nil_iff, flattenItems_eq_nil_iff,
      Json.hollowItems, Bool.and_eq_true]

end

/-! ## The comparisons in a filter -/

/-- A comparison in a filter, with the key under which its value is sent. -/
structure Site where
  key : String
  field : String
  op : String
  value : Json

/-- The pairs that are sent for a comparison. -/
def Site.pairs (s : Site) : List (String × String) := flatten s.key s.value

/-- What a comparison compares. -/
def Site.comparison (s : Site) : String × String × Json := (s.field, s.op, s.value)

mutual

/-- The comparisons in the members of a filter that stands under a key. -/
def sites (key : String) : List (String × Json) → List Site
  | [] => []
  | (name, body) :: rest => memberSites (bracket key name) name body ++ sites key rest

/-- The comparisons in a member of a filter. A member that is no connective, with the filters that
it joins, and no field, with its operators, stands for itself. -/
def memberSites (key name : String) : Json → List Site
  | .object members =>
    if name = "not" then sites key members
    else members.map fun (op, value) => ⟨bracket key op, name, op, value⟩
  | .list parts =>
    if Filter.isField name then [⟨key, name, "", .list parts⟩] else partsSites key 0 parts
  | body => [⟨key, name, "", body⟩]

/-- The comparisons in joined filters, the first of which has the given number. -/
def partsSites (key : String) (index : Nat) : List Json → List Site
  | [] => []
  | part :: rest => partSites (bracket key (toString index)) part ++ partsSites key (index + 1) rest

/-- The comparisons in one of some joined filters. -/
def partSites (key : String) : Json → List Site
  | .object members => sites key members
  | part => [⟨key, "", "", part⟩]

end

theorem sites_eq_flatMap (key : String) (f : List (String × Json)) :
    sites key f = f.flatMap fun entry => memberSites (bracket key entry.1) entry.1 entry.2 := by
  induction f with
  | nil => rfl
  | cons entry rest ih => rw [sites, List.flatMap_cons, ih]

theorem flattenMembers_eq_flatMap (key : String) (members : List (String × Json)) :
    flattenMembers key members =
      members.flatMap fun (name, value) => flatten (bracket key name) value := by
  induction members with
  | nil => rfl
  | cons entry rest ih => rw [flattenMembers, List.flatMap_cons, ih]

mutual

/-- A filter is sent as the pairs of its comparisons, one after another. -/
theorem flattenMembers_eq (key : String) : ∀ f : List (String × Json),
    flattenMembers key f = (sites key f).flatMap Site.pairs
  | [] => by rw [flattenMembers, sites, List.flatMap_nil]
  | (name, body) :: rest => by
    rw [flattenMembers, sites, List.flatMap_append, flatten_eq_memberSites _ name body,
      flattenMembers_eq key rest]

theorem flatten_eq_memberSites (key name : String) : ∀ body : Json,
    flatten key body = (memberSites key name body).flatMap Site.pairs
  | .object members => by
    rw [flatten, memberSites]
    split
    · exact flattenMembers_eq key members
    · rw [flattenMembers_eq_flatMap, List.flatMap_map]
      rfl
  | .list parts => by
    rw [memberSites]
    split
    · exact (List.flatMap_singleton _ _).symm
    · rw [flatten]
      exact flattenItems_eq key 0 parts
  | .null => (List.flatMap_singleton Site.pairs ⟨key, name, "", .null⟩).symm
  | .bool b => (List.flatMap_singleton Site.pairs ⟨key, name, "", .bool b⟩).symm
  | .number n => (List.flatMap_singleton Site.pairs ⟨key, name, "", .number n⟩).symm
  | .text s => (List.flatMap_singleton Site.pairs ⟨key, name, "", .text s⟩).symm

theorem flattenItems_eq (key : String) (index : Nat) : ∀ parts : List Json,
    flattenItems key index parts = (partsSites key index parts).flatMap Site.pairs
  | [] => by rw [flattenItems, partsSites, List.flatMap_nil]
  | part :: rest => by
    rw [flattenItems, partsSites, List.flatMap_append, flatten_eq_partSites _ part,
      flattenItems_eq key (index + 1) rest]

theorem flatten_eq_partSites (key : String) : ∀ part : Json,
    flatten key part = (partSites key part).flatMap Site.pairs
  | .object members => by
    rw [flatten, partSites]
    exact flattenMembers_eq key members
  | .list parts => (List.flatMap_singleton Site.pairs ⟨key, "", "", .list parts⟩).symm
  | .null => (List.flatMap_singleton Site.pairs ⟨key, "", "", .null⟩).symm
  | .bool b => (List.flatMap_singleton Site.pairs ⟨key, "", "", .bool b⟩).symm
  | .number n => (List.flatMap_singleton Site.pairs ⟨key, "", "", .number n⟩).symm
  | .text s => (List.flatMap_singleton Site.pairs ⟨key, "", "", .text s⟩).symm

end

end Wire

/-! ## The comparisons of a condition -/

namespace Condition

mutual

/-- The comparisons that a condition makes, with their parameters replaced. -/
def comparisons (params : Parameters) : Condition → List (String × String × Json)
  | .fields pairs => pairs.map fun (field, value) =>
      (field, if value.isList then "in" else "eq", resolve params value)
  | .compare op field value => [(field, op.name, resolve params value)]
  | .between field start stop false =>
    [(field, "gt", resolve params start), (field, "lt", resolve params stop)]
  | .between field start stop true =>
    [(field, "lt", resolve params start), (field, "gt", resolve params stop)]
  | .member field values negated =>
    [(field, if negated then "nin" else "in", .list (values.map (resolve params)))]
  | .like field patterns _ _ => patterns.map fun pattern => (field, "like", resolve params pattern)
  | .not inner => comparisons params inner
  | .joined _ operands => allComparisons params operands

/-- The comparisons that some conditions make. -/
def allComparisons (params : Parameters) : List Condition → List (String × String × Json)
  | [] => []
  | operand :: rest => comparisons params operand ++ allComparisons params rest

end

end Condition

namespace Filter

/-- Whether the comparisons in a filter are some given ones, wherever the filter stands. -/
def Makes (f : Filter) (comparisons : List (String × String × Json)) : Prop :=
  ∀ key, ((Wire.sites key f).map Wire.Site.comparison).Perm comparisons

variable {f : Filter} {name op : String} {value : Json}
  {comparisons : List (String × String × Json)}

/-- A filter without members makes no comparison. -/
theorem Makes.eq_nil (h : Makes [] comparisons) : comparisons = [] :=
  (h "").nil_eq.symm

/-- A field makes a comparison by each of its operators. -/
theorem sites_member (hname : isField name) (key : String) (operators : List (String × Json)) :
    (Wire.memberSites key name (.object operators)).map Wire.Site.comparison =
      operators.map fun (op, value) => (name, op, value) := by
  have hnot : name ≠ "not" := by
    rintro rfl
    cases hname
  rw [Wire.memberSites, if_neg hnot, List.map_map]
  rfl

theorem makes_single (hname : isField name) (operators : List (String × Json)) :
    Makes (single name (.object operators))
      (operators.map fun (op, value) => (name, op, value)) := by
  intro key
  rw [single, Wire.sites, Wire.sites, List.append_nil, sites_member hname]

theorem makes_field (hname : isField name) (op : String) (value : Json) :
    Makes (field name op value) [(name, op, value)] :=
  makes_single hname _

/-- A complement makes the comparisons of the filter. -/
theorem Makes.not (h : Makes f comparisons) : Makes (Filter.not f) comparisons := by
  intro key
  cases f with
  | nil => exact h key
  | cons entry rest =>
    have hinner := h (Wire.bracket key "not")
    show ((Wire.sites key [("not", .object (entry :: rest))]).map Wire.Site.comparison).Perm _
    rw [Wire.sites, Wire.sites, List.append_nil, Wire.memberSites, if_pos rfl]
    exact hinner

/-- Joined filters make the comparisons of all of them. -/
theorem makes_joined (connective : Connective) {parts : List Filter}
    {made : List (List (String × String × Json))} (h : List.Forall₂ Makes parts made) :
    Makes (joined connective parts) made.flatten := by
  -- The parts are numbered, so the induction is over any first number.
  have hparts : ∀ key index, ((Wire.partsSites key index (parts.map .object)).map
      Wire.Site.comparison).Perm made.flatten := by
    intro key index
    induction h generalizing index with
    | nil => exact .refl _
    | cons hpart _ ih =>
      rw [List.map_cons, Wire.partsSites, Wire.partSites, List.map_append, List.flatten_cons]
      exact (hpart _).append (ih (index + 1))
  intro key
  cases hempty : parts with
  | nil =>
    subst hempty
    cases h
    exact .refl _
  | cons part rest =>
    have hconnective : isField connective.name = false := by cases connective <;> rfl
    have hjoined : joined connective parts =
        single connective.name (.list (parts.map .object)) := by rw [joined, hempty]; rfl
    rw [← hempty, hjoined, single, Wire.sites, Wire.sites, List.append_nil, Wire.memberSites,
      hconnective, if_neg Bool.false_ne_true]
    exact hparts _ 0

/-- Patterns are compared with one by one. -/
theorem makes_like (hname : isField name) (params : Parameters) (patterns : List Json)
    (connective : Connective) (negated : Bool) :
    Makes (like params name patterns connective negated)
      (patterns.map fun pattern => (name, "like", resolve params pattern)) := by
  obtain ⟨f, hlike, hf⟩ := like_shape params name patterns connective negated
  have hmakes : Makes f (patterns.map fun pattern => (name, "like", resolve params pattern)) := by
    rcases hf with rfl | ⟨pattern, rfl, rfl⟩
    · have hparts : List.Forall₂ Makes
          (patterns.map fun pattern => field name "like" (resolve params pattern))
          (patterns.map fun pattern => [(name, "like", resolve params pattern)]) := by
        rw [List.forall₂_map_left_iff, List.forall₂_map_right_iff, List.forall₂_same]
        exact fun pattern _ => makes_field hname _ _
      have hjoined := makes_joined connective hparts
      rwa [← List.flatMap_def, ← List.map_eq_flatMap] at hjoined
    · exact makes_field hname _ _
  rw [hlike]
  cases negated with
  | false => exact hmakes
  | true => exact hmakes.not

/-- Pairs under distinct names are compared one by one. -/
theorem makes_fields {params : Parameters} {pairs : List (String × Json)}
    (hnames : ∀ pair ∈ pairs, isField pair.1) (hnodup : (pairs.map Prod.fst).Nodup)
    (h : fields params pairs = .ok f) :
    Makes f (pairs.map fun (field, value) =>
      (field, if value.isList then "in" else "eq", resolve params value)) := by
  -- Distinct names leave no pair overwritten, so the map is the pairs in another order.
  have hkeys : ((pairs.map fun (name, value) => (name, pairOperators params value)).map
      Prod.fst).Nodup := by simpa [Function.comp_def] using hnodup
  intro key
  have hperm := ((KeyMap.ofEntries_perm hkeys).flatMap_right
    fun entry => Wire.memberSites (Wire.bracket key entry.1) entry.1 entry.2).map
      Wire.Site.comparison
  rw [← fields_eq_ok h, ← Wire.sites_eq_flatMap, List.flatMap_map, List.map_flatMap] at hperm
  refine hperm.trans (.of_eq (Eq.trans ?_ List.map_eq_flatMap.symm))
  exact List.flatMap_congr fun pair hpair => sites_member (hnames pair hpair) _ _

end Filter

namespace Condition

variable {params : Parameters}

/-- Of operands that are compiled one by one, the filters that are kept make all comparisons, since
an empty filter makes none. -/
theorem makes_kept {operands : List Condition} {compiled : List Filter}
    (hcompiled : List.Forall₂ (fun c f => compile params c = .ok f) operands compiled)
    (hmakes : ∀ c ∈ operands, ∀ f, compile params c = .ok f → f.Makes (c.comparisons params)) :
    ∃ made, List.Forall₂ Filter.Makes (compiled.filter fun f => !f.isEmpty) made ∧
      made.flatten = allComparisons params operands := by
  induction hcompiled with
  | nil => exact ⟨[], .nil, rfl⟩
  | @cons operand part rest others hpart _ ih =>
    obtain ⟨made, hmade, hflatten⟩ := ih fun c hc => hmakes c (List.mem_cons_of_mem _ hc)
    have hhead := hmakes operand List.mem_cons_self part hpart
    cases part with
    | nil =>
      refine ⟨made, hmade, ?_⟩
      rw [allComparisons, hhead.eq_nil, List.nil_append]
      exact hflatten
    | cons entry members =>
      refine ⟨operand.comparisons params :: made, .cons hhead hmade, ?_⟩
      rw [List.flatten_cons, hflatten]
      rfl

/-- The comparisons in the compiled filter are those of the condition. -/
theorem makes_of_compile {c : Condition} {f : Filter} (hnamed : WellNamed c)
    (h : compile params c = .ok f) : f.Makes (c.comparisons params) := by
  induction c generalizing f with
  | fields pairs =>
    rw [compile] at h
    exact Filter.makes_fields hnamed.1 hnamed.2 h
  | compare op field value =>
    cases h
    exact Filter.makes_field hnamed _ _
  | between field start stop negated =>
    have hname : Filter.isField field := hnamed
    cases negated with
    | false =>
      cases h
      exact Filter.makes_single hname _
    | true =>
      cases h
      exact Filter.makes_joined .or
        (.cons (Filter.makes_field hname _ _) (.cons (Filter.makes_field hname _ _) .nil))
  | member field values negated =>
    rw [compile, Filter.member] at h
    split at h
    · cases h
    · cases h
      exact Filter.makes_field hnamed _ _
  | like field patterns connective negated =>
    cases h
    exact Filter.makes_like hnamed params patterns connective negated
  | not inner ih =>
    rw [compile] at h
    obtain ⟨g, hg, rfl⟩ := map_eq_ok_iff.1 h
    exact (ih hnamed hg).not
  | joined connective operands ih =>
    rw [compile] at h
    obtain ⟨parts, hparts, rfl⟩ := map_eq_ok_iff.1 h
    obtain ⟨compiled, hcompiled, rfl⟩ := compileAll_eq_ok hparts
    have hall := (allWellNamed_iff operands).1 hnamed
    obtain ⟨made, hmade, hflatten⟩ :=
      makes_kept hcompiled fun c hc f hf => ih c hc (hall c hc) hf
    rw [comparisons, ← hflatten]
    exact Filter.makes_joined connective hmade

theorem allComparisons_eq (operands : List Condition) :
    allComparisons params operands = operands.flatMap (comparisons params) := by
  induction operands with
  | nil => rfl
  | cons operand rest ih => rw [allComparisons, List.flatMap_cons, ih]

/-- A condition constrains nothing exactly if it makes no comparison. -/
theorem isVacuous_iff (params : Parameters) (c : Condition) :
    isVacuous c = true ↔ c.comparisons params = [] := by
  induction c with
  | fields pairs => rw [isVacuous, comparisons, List.isEmpty_iff, List.map_eq_nil_iff]
  | compare op field value => simp [isVacuous, comparisons]
  | between field start stop negated => cases negated <;> simp [isVacuous, comparisons]
  | member field values negated => simp [isVacuous, comparisons]
  | like field patterns connective negated =>
    rw [isVacuous, comparisons, List.isEmpty_iff, List.map_eq_nil_iff]
  | not inner ih => rw [isVacuous, comparisons, ih]
  | joined connective operands ih =>
    rw [isVacuous, comparisons, allVacuous_eq, allComparisons_eq, List.all_eq_true,
      List.flatMap_eq_nil_iff]
    exact forall₂_congr ih

/-- What is sent of the filter that a condition is compiled to. -/
structure SentAs (params : Parameters) (c : Condition) (f : Filter) : Prop where
  /-- The comparisons in it, one after another. -/
  pairs : Wire.filterPairs f = (Wire.sites "filter" f).flatMap Wire.Site.pairs
  /-- Of a comparison at least one pair, unless its value is hollow. -/
  contributes : ∀ s ∈ Wire.sites "filter" f, s.pairs ≠ [] ↔ s.value.isHollow = false
  /-- Nothing at all exactly if all values are hollow. -/
  unfiltered : Wire.filterPairs f = [] ↔ ∀ s ∈ Wire.sites "filter" f, s.value.isHollow = true
  /-- The comparisons are those of the condition, with the parameters replaced. -/
  comparisons : c.WellNamed →
    ((Wire.sites "filter" f).map Wire.Site.comparison).Perm (c.comparisons params)
  /-- There is one unless the filter is empty. -/
  nonempty : f = [] ↔ c.comparisons params = []

/-- A compiled filter is sent as the comparisons of the condition, except for those whose values
hold nothing to send once their parameters are replaced. -/
theorem sent_of_compile (params : Parameters) (c : Condition) (f : Filter)
    (h : compile params c = .ok f) : c.SentAs params f := by
  have hpairs := Wire.flattenMembers_eq "filter" f
  refine ⟨hpairs, fun s _ => ?_, ?_, fun hnamed => makes_of_compile hnamed h "filter", ?_⟩
  · rw [Wire.Site.pairs, ne_eq, Wire.flatten_eq_nil_iff, Bool.not_eq_true]
  · rw [Wire.filterPairs, hpairs, List.flatMap_eq_nil_iff]
    exact forall₂_congr fun s _ => Wire.flatten_eq_nil_iff
  · rw [← isVacuous_iff, ← isEmpty_compile h, List.isEmpty_iff]

/-- A parameter that is bound to no value leaves a filter of which nothing is sent. -/
theorem sent_of_compile_empty_parameter :
    let params : Parameters := [(":ids", .list [])]
    let c : Condition := .fields [("id", .text ":ids")]
    let f : Filter := [("id", .object [("eq", .list [])])]
    (c.WellNamed ∧ c.compile params = .ok f) ∧ f ≠ [] ∧ Wire.filterPairs f = [] ∧
      c.SentAs params f := by
  intro params c f
  have hnamed : c.WellNamed := by simp [c, WellNamed, Filter.isField]
  have hcompile : c.compile params = .ok f := by decide +kernel
  exact ⟨⟨hnamed, hcompile⟩, List.cons_ne_nil _ _, by decide +kernel,
    sent_of_compile params c f hcompile⟩

end Condition

end RestQuery
