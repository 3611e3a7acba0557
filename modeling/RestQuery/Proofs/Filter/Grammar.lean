import RestQuery.Proofs.Filter.Sent

/-!
# The grammar of compiled filters

A filter that says something is an object with members, each of which is the complement of one such
filter, a list of them under a connective, or a field with at least one operator
(`Filter.WellFormed`). A condition is compiled to such a filter or to the empty one, and its fields
are compared as the condition has it (`wellFormed_of_compile`): a filter that says nothing is left
out before a `not` or a connective is put around it (`Filter.wellFormed_not`,
`Filter.wellFormed_joined`).

So nothing is empty where a filter is read, however deep (`Filter.WellFormed.solid`). A field may
have the name of a connective. Its operators are then read as a filter as well, but they are no
connectives, so that the reading ends there.
-/

namespace RestQuery

namespace Filter

/-- The operators by which a field is compared. -/
def operators : List String := ["eq", "neq", "lt", "gt", "lte", "gte", "in", "nin", "like"]

/-- Whether an operator compares a field with a value. A membership takes a list. -/
def Compares (op : String) (value : Json) : Prop :=
  op ∈ operators ∧ (op = "in" ∨ op = "nin" → value.isList = true)

mutual

/-- Whether a filter says something and follows the grammar, making only some given comparisons. -/
inductive WellFormed (made : List (String × String × Json)) : Filter → Prop where
  | intro {f : Filter} (hne : f ≠ []) (hordered : KeyMap.Ordered f)
      (h : ∀ entry ∈ f, MemberWellFormed made entry.1 entry.2) : WellFormed made f

/-- Whether a key and a body are a member of such a filter. -/
inductive MemberWellFormed (made : List (String × String × Json)) : String → Json → Prop where
  | not {inner : Filter} (h : WellFormed made inner) : MemberWellFormed made "not" (.object inner)
  | joined {connective : Connective} {parts : List Filter} (hne : parts ≠ [])
      (h : ∀ part ∈ parts, WellFormed made part) :
      MemberWellFormed made connective.name (.list (parts.map .object))
  | field {name : String} {comparisons : KeyMap Json} (hne : comparisons ≠ [])
      (hordered : KeyMap.Ordered comparisons)
      (h : ∀ entry ∈ comparisons, Compares entry.1 entry.2 ∧ (name, entry.1, entry.2) ∈ made) :
      MemberWellFormed made name (.object comparisons)

end

/-- Whether a filter stands in another one: it is the other, or stands in one that a connective of
the other is put around. -/
inductive Within (g : Filter) : Filter → Prop where
  | self : Within g g
  | not {f inner : Filter} (hmem : ("not", .object inner) ∈ f) (h : Within g inner) : Within g f
  | joined {f part : Filter} {connective : Connective} {parts : List Json}
      (hmem : (connective.name, .list parts) ∈ f) (hpart : .object part ∈ parts)
      (h : Within g part) : Within g f

/-- Whether a filter has members, and its connectives are put around filters that have. -/
structure Solid (f : Filter) : Prop where
  members : f ≠ []
  inner : ("not", .object []) ∉ f
  parts : ∀ connective : Connective, (connective.name, .list []) ∉ f
  part : ∀ (connective : Connective) (parts : List Json), (connective.name, .list parts) ∈ f →
    .object [] ∉ parts

variable {made : List (String × String × Json)} {f : Filter} {name key op : String} {value : Json}

/-! ## How well-formed filters are made -/

theorem compares_comparison (op : Comparison) (value : Json) : Compares op.name value := by
  cases op <;> simp [Compares, operators, Comparison.name]

theorem compares_like (value : Json) : Compares "like" value := by simp [Compares, operators]

theorem compares_member (negated : Bool) (items : List Json) :
    Compares (if negated then "nin" else "in") (.list items) :=
  ⟨by cases negated <;> decide, fun _ => rfl⟩

theorem wellFormed_single (h : MemberWellFormed made key value) :
    WellFormed made (single key value) := by
  refine .intro (List.cons_ne_nil _ _) (List.pairwise_singleton _ _) fun entry hentry => ?_
  rw [List.mem_singleton.mp hentry]
  exact h

/-- A field is compared by one operator. -/
theorem memberWellFormed_single (h : Compares op value) (hmade : (name, op, value) ∈ made) :
    MemberWellFormed made name (.object (single op value)) := by
  refine .field (List.cons_ne_nil _ _) (List.pairwise_singleton _ _) fun entry hentry => ?_
  rw [List.mem_singleton.mp hentry]
  exact ⟨h, hmade⟩

theorem wellFormed_field (h : Compares op value) (hmade : (name, op, value) ∈ made) :
    WellFormed made (field name op value) :=
  wellFormed_single (memberWellFormed_single h hmade)

/-- No `not` is put around the empty filter. -/
theorem wellFormed_not (h : f = [] ∨ WellFormed made f) :
    not f = [] ∨ WellFormed made (not f) := by
  rcases h with rfl | h
  · exact .inl rfl
  · right
    have hf : f.isEmpty = false := by
      cases h with
      | intro hne => exact List.isEmpty_eq_false_iff.mpr hne
    rw [not, hf, if_neg Bool.false_ne_true]
    exact wellFormed_single (.not h)

/-- No connective is put around no filters. -/
theorem wellFormed_joined (connective : Connective) {parts : List Filter}
    (h : ∀ part ∈ parts, WellFormed made part) :
    joined connective parts = [] ∨ WellFormed made (joined connective parts) := by
  cases hparts : parts.isEmpty with
  | true =>
    rw [List.isEmpty_iff.mp hparts]
    exact .inl rfl
  | false =>
    right
    rw [joined, hparts, if_neg Bool.false_ne_true]
    exact wellFormed_single (.joined (List.isEmpty_eq_false_iff.mp hparts) h)

/-- Inside a range a field is compared by two operators. -/
theorem wellFormed_inside {start stop : Json} (hstart : (name, "gt", start) ∈ made)
    (hstop : (name, "lt", stop) ∈ made) :
    WellFormed made (single name (.object [("gt", start), ("lt", stop)])) := by
  refine wellFormed_single (.field (List.cons_ne_nil _ _) ?_ fun entry hentry => ?_)
  · exact List.pairwise_pair.mpr (show "gt" < "lt" by decide)
  · rcases List.mem_cons.mp hentry with rfl | hentry
    · exact ⟨compares_comparison .gt start, hstart⟩
    · rw [List.mem_singleton.mp hentry]
      exact ⟨compares_comparison .lt stop, hstop⟩

/-- Outside of a range two filters are joined. -/
theorem wellFormed_outside {start stop : Json} (hstart : (name, "lt", start) ∈ made)
    (hstop : (name, "gt", stop) ∈ made) :
    joined .or [field name "lt" start, field name "gt" stop] = [] ∨
      WellFormed made (joined .or [field name "lt" start, field name "gt" stop]) := by
  refine wellFormed_joined .or fun part hpart => ?_
  rcases List.mem_cons.mp hpart with rfl | hpart
  · exact wellFormed_field (compares_comparison .lt start) hstart
  · rw [List.mem_singleton.mp hpart]
    exact wellFormed_field (compares_comparison .gt stop) hstop

theorem wellFormed_member {params : Parameters} {items : List Json} {negated : Bool}
    (h : member params name items negated = .ok f)
    (hmade : (name, if negated then "nin" else "in", .list (items.map (resolve params))) ∈ made) :
    WellFormed made f := by
  rw [member] at h
  split at h
  · cases h
  · cases h
    exact wellFormed_field (compares_member negated _) hmade

/-- A pattern needs no connective, several are put under one, and none say nothing. -/
theorem wellFormed_like (params : Parameters) (patterns : List Json) (connective : Connective)
    (negated : Bool)
    (hmade : ∀ pattern ∈ patterns, (name, "like", resolve params pattern) ∈ made) :
    like params name patterns connective negated = [] ∨
      WellFormed made (like params name patterns connective negated) := by
  have hpart : ∀ pattern ∈ patterns,
      WellFormed made (field name "like" (resolve params pattern)) :=
    fun pattern hpattern => wellFormed_field (compares_like _) (hmade pattern hpattern)
  obtain ⟨f, hlike, hshape⟩ := like_shape params name patterns connective negated
  have hf : f = [] ∨ WellFormed made f := by
    rcases hshape with rfl | ⟨pattern, rfl, rfl⟩
    · refine wellFormed_joined connective fun part hmem => ?_
      obtain ⟨pattern, hpattern, rfl⟩ := List.mem_map.mp hmem
      exact hpart pattern hpattern
    · exact .inr (hpart pattern List.mem_cons_self)
  rw [hlike]
  cases negated with
  | false => exact hf
  | true => exact wellFormed_not hf

/-- Pairs are fields with one operator each, also if some are overwritten. -/
theorem wellFormed_fields {params : Parameters} {pairs : List (String × Json)}
    (h : fields params pairs = .ok f)
    (hmade : ∀ pair ∈ pairs,
      (pair.1, if pair.2.isList then "in" else "eq", resolve params pair.2) ∈ made) :
    f = [] ∨ WellFormed made f := by
  rw [or_iff_not_imp_left]
  intro hne
  have hf := fields_eq_ok h
  refine .intro hne (hf ▸ KeyMap.ordered_ofEntries _) fun entry hentry => ?_
  rw [hf] at hentry
  obtain ⟨⟨field, value⟩, hpair, rfl⟩ := List.mem_map.mp (KeyMap.mem_of_mem_ofEntries hentry)
  refine memberWellFormed_single ?_ (hmade _ hpair)
  cases value with
  | list items => exact compares_member false _
  | _ => exact compares_comparison .eq _

/-! ## What stands in well-formed filters -/

/-- What an object can be as a member. -/
theorem MemberWellFormed.of_object {members : KeyMap Json}
    (h : MemberWellFormed made key (.object members)) :
    WellFormed made members ∨ members ≠ [] ∧ ∀ entry ∈ members, entry.1 ∈ operators := by
  cases h with
  | not hinner => exact .inl hinner
  | field hne _ hcomparisons =>
    exact .inr ⟨hne, fun entry hentry => (hcomparisons entry hentry).1.1⟩

theorem MemberWellFormed.of_list {parts : List Json} (h : MemberWellFormed made key (.list parts)) :
    parts ≠ [] ∧ ∀ part, .object part ∈ parts → WellFormed made part := by
  cases h with
  | @joined connective parts hne hparts =>
    refine ⟨fun h => hne (List.map_eq_nil_iff.mp h), fun part hpart => ?_⟩
    obtain ⟨part', hpart', heq⟩ := List.mem_map.mp hpart
    obtain rfl := Json.object.inj heq
    exact hparts _ hpart'

theorem WellFormed.ne_nil (h : WellFormed made f) : f ≠ [] := by
  cases h with
  | intro hne => exact hne

theorem WellFormed.member (h : WellFormed made f) {entry : String × Json} (hentry : entry ∈ f) :
    MemberWellFormed made entry.1 entry.2 := by
  cases h with
  | intro _ _ hmembers => exact hmembers entry hentry

theorem not_mem_operators : "not" ∉ operators := by decide

theorem name_not_mem_operators (connective : Connective) : connective.name ∉ operators := by
  cases connective <;> decide

/-- What a connective is put around has members, wherever that is. -/
theorem WellFormed.solid {g : Filter} (hwithin : Within g f) (h : WellFormed made f) : Solid g := by
  -- Below a field with the name of a connective there are operators.
  suffices hread : WellFormed made f ∨ (f ≠ [] ∧ ∀ entry ∈ f, entry.1 ∈ operators) → Solid g from
    hread (.inl h)
  clear h
  induction hwithin with
  | self =>
    rintro (h | ⟨hne, hops⟩)
    · refine ⟨h.ne_nil, fun hmem => ?_, fun connective hmem => ?_,
        fun connective parts hmem hpart => ?_⟩
      · rcases (h.member hmem).of_object with hinner | ⟨hne, -⟩
        · exact hinner.ne_nil rfl
        · exact hne rfl
      · exact (h.member hmem).of_list.1 rfl
      · exact ((h.member hmem).of_list.2 [] hpart).ne_nil rfl
    · refine ⟨hne, fun hmem => ?_, fun connective hmem => ?_, fun connective parts hmem _ => ?_⟩
      · exact absurd (hops _ hmem) not_mem_operators
      · exact name_not_mem_operators connective (hops _ hmem)
      · exact name_not_mem_operators connective (hops _ hmem)
  | not hmem _ ih =>
    rintro (h | ⟨-, hops⟩)
    · exact ih (h.member hmem).of_object
    · exact absurd (hops _ hmem) not_mem_operators
  | @joined f part connective parts hmem hpart _ ih =>
    rintro (h | ⟨-, hops⟩)
    · exact ih (.inl ((h.member hmem).of_list.2 part hpart))
    · exact absurd (hops _ hmem) (name_not_mem_operators connective)

end Filter

namespace Condition

variable {params : Parameters}

/-- Of operands that are compiled one by one, the filters that are kept say something. -/
theorem wellFormed_kept {made : List (String × String × Json)} {operands : List Condition}
    {compiled : List Filter}
    (hcompiled : List.Forall₂ (fun c f => compile params c = .ok f) operands compiled)
    (h : ∀ c ∈ operands, ∀ f, compile params c = .ok f → f = [] ∨ f.WellFormed made) :
    ∀ part ∈ compiled.filter fun f => !f.isEmpty, part.WellFormed made := by
  induction hcompiled with
  | nil => exact fun part hpart => nomatch hpart
  | @cons operand first rest others hfirst _ ih =>
    have htail := ih fun c hc => h c (List.mem_cons_of_mem _ hc)
    rcases h operand List.mem_cons_self first hfirst with rfl | hhead
    · exact htail
    · intro part hpart
      obtain ⟨hmem, hne⟩ := List.mem_filter.mp hpart
      rcases List.mem_cons.mp hmem with rfl | hrest
      · exact hhead
      · exact htail part (List.mem_filter.mpr ⟨hrest, hne⟩)

/-- The filter of a condition is empty or follows the grammar, where it makes comparisons of the
condition only. -/
theorem wellFormed_of_compile {c : Condition} {f : Filter} {made : List (String × String × Json)}
    (hmade : c.comparisons params ⊆ made) (h : compile params c = .ok f) :
    f = [] ∨ f.WellFormed made := by
  -- An operand makes a part of the comparisons only, so those that are allowed are any that contain
  -- its own.
  induction c generalizing f with
  | fields pairs =>
    rw [compile] at h
    exact Filter.wellFormed_fields h fun pair hpair => hmade (List.mem_map_of_mem hpair)
  | compare op field value =>
    cases h
    have hcompares := Filter.compares_comparison op (resolve params value)
    exact .inr (Filter.wellFormed_field hcompares (hmade List.mem_cons_self))
  | between field start stop negated =>
    cases negated with
    | false =>
      cases h
      exact .inr (Filter.wellFormed_inside (hmade List.mem_cons_self)
        (hmade (List.mem_cons_of_mem _ List.mem_cons_self)))
    | true =>
      cases h
      exact Filter.wellFormed_outside (hmade List.mem_cons_self)
        (hmade (List.mem_cons_of_mem _ List.mem_cons_self))
  | member field values negated =>
    rw [compile] at h
    exact .inr (Filter.wellFormed_member h (hmade List.mem_cons_self))
  | like field patterns connective negated =>
    cases h
    exact Filter.wellFormed_like params patterns connective negated fun pattern hpattern =>
      hmade (List.mem_map_of_mem hpattern)
  | not inner ih =>
    rw [compile] at h
    obtain ⟨g, hg, rfl⟩ := map_eq_ok_iff.1 h
    exact Filter.wellFormed_not (ih hmade hg)
  | joined connective operands ih =>
    rw [compile] at h
    obtain ⟨parts, hparts, rfl⟩ := map_eq_ok_iff.1 h
    obtain ⟨compiled, hcompiled, rfl⟩ := compileAll_eq_ok hparts
    refine Filter.wellFormed_joined connective
      (wellFormed_kept hcompiled fun c hc f hf => ih c hc ?_ hf)
    intro comparison hcomparison
    refine hmade ?_
    rw [comparisons, allComparisons_eq]
    exact List.mem_flatMap_of_mem hc hcomparison

/-- A compiled filter is empty, or it follows the grammar and makes comparisons of the condition
only. Then nothing that a connective is put around is empty, however deep. -/
theorem grammar_of_compile (params : Parameters) (c : Condition) (f : Filter)
    (h : compile params c = .ok f) :
    f = [] ∨ f.WellFormed (c.comparisons params) ∧ ∀ g, Filter.Within g f → Filter.Solid g := by
  refine (wellFormed_of_compile (List.Subset.refl _) h).imp_right fun hf => ?_
  exact ⟨hf, fun g hwithin => hf.solid hwithin⟩

/-- A complement of nothing, negated patterns, and a field with the name of a connective. -/
theorem grammar_of_compile_negations :
    let params : Parameters := [(":id", .nat 7)]
    let c : Condition := .joined .and
      [.not (.joined .or [.fields [], .like "name" [] .and true]),
        .like "name" [.text "a", .text "b"] .or true,
        .fields [("id", .list [.text ":id"]), ("not", .object [])]]
    let f : Filter := [("and", .list
      [.object [("not", .object [("or", .list
          [.object [("name", .object [("like", .text "a")])],
            .object [("name", .object [("like", .text "b")])]])])],
        .object [("id", .object [("in", .list [.nat 7])]), ("not", .object [("eq", .object [])])]])]
    c.compile params = .ok f ∧ f.WellFormed (c.comparisons params) ∧
      ∀ g, Filter.Within g f → Filter.Solid g := by
  intro params c f
  have hcompile : c.compile params = .ok f := by decide +kernel
  exact ⟨hcompile, (grammar_of_compile params c f hcompile).resolve_left (List.cons_ne_nil _ _)⟩

end Condition

end RestQuery
