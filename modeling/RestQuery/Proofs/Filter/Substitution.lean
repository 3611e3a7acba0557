import RestQuery.Proofs.Filter.Meaning
import RestQuery.Proofs.Filter.Refusal

/-!
# Parameters that are put in before compiling

A condition is compiled with a table of parameters, whose values are put in on the way. They can
also be put into the condition first (`Condition.resolved`), which is then compiled without a table.
`Condition.compile_eq_resolved_iff` says when both come to the same.

Two looks at a value are taken before its parameters are replaced: whether a membership has a value
at all, and whether the value of a pair is a list, which stands for a membership. Everything else in
a condition takes its values as they come. So what matters is whether the condition is refused for
the same membership (`Condition.refusedField?`, `Condition.compile_refused`), and whether the values
of pairs stay lists, or no lists, where they count (`Condition.KeepsLists`).
-/

namespace RestQuery

mutual

/-- Without parameters a value stays as it is. -/
@[simp] theorem resolve_nil : ∀ value : Json, resolve [] value = value
  | .text _ | .null | .bool _ | .number _ | .object _ => rfl
  | .list items => by rw [resolve, resolveItems_nil items]

theorem resolveItems_nil : ∀ items : List Json, resolveItems [] items = items
  | [] => rfl
  | item :: rest => by rw [resolveItems, resolve_nil item, resolveItems_nil rest]

end

namespace Condition

mutual

/-- A condition with the parameters in all its values replaced. -/
def resolved (params : Parameters) : Condition → Condition
  | .fields pairs => .fields (pairs.map fun (field, value) => (field, resolve params value))
  | .compare op field value => .compare op field (resolve params value)
  | .between field start stop negated =>
    .between field (resolve params start) (resolve params stop) negated
  | .member field values negated => .member field (values.map (resolve params)) negated
  | .like field patterns connective negated =>
    .like field (patterns.map (resolve params)) connective negated
  | .not inner => .not (resolved params inner)
  | .joined connective operands => .joined connective (allResolved params operands)

/-- Some conditions with their parameters replaced. -/
def allResolved (params : Parameters) : List Condition → List Condition
  | [] => []
  | operand :: rest => resolved params operand :: allResolved params rest

end

mutual

/-- Whether the values of pairs are lists exactly if they are before their parameters are replaced.
Of two pairs with one field the later counts. -/
def KeepsLists (params : Parameters) : Condition → Prop
  | .fields pairs => ∀ pair ∈ KeyMap.ofEntries pairs, (resolve params pair.2).isList = pair.2.isList
  | .compare .. | .between .. | .member .. | .like .. => True
  | .not inner => KeepsLists params inner
  | .joined _ operands => AllKeepLists params operands

/-- Whether this is so in each of some conditions. -/
def AllKeepLists (params : Parameters) : List Condition → Prop
  | [] => True
  | operand :: rest => KeepsLists params operand ∧ AllKeepLists params rest

end

end Condition

/-! ## What a condition is compiled to -/

namespace Filter

variable {params : Parameters}

/-- The filter of some pairs has the operators of the pairs that count. -/
theorem eq_map_of_fields {pairs : List (String × Json)} {f : Filter}
    (h : fields params pairs = .ok f) :
    f = (KeyMap.ofEntries pairs).map fun pair => (pair.1, pairOperators params pair.2) :=
  (fields_eq_ok h).trans (KeyMap.ofEntries_map (pairOperators params) pairs)

/-- The operators of a pair are the same, whenever its parameters are replaced, exactly if its value
is a list before and after. -/
theorem pairOperators_resolve_iff (value : Json) :
    pairOperators params value = pairOperators [] (resolve params value) ↔
      (resolve params value).isList = value.isList := by
  unfold pairOperators
  rw [resolve_nil]
  cases value.isList <;> cases (resolve params value).isList <;> simp [single]

/-- Filters with one complement are the same. -/
theorem not_inj {f g : Filter} : not f = not g ↔ f = g := by
  refine ⟨fun h => ?_, congrArg not⟩
  cases f <;> cases g <;> simp_all [not, single]

/-- Filters that are joined to one are the same. -/
theorem joined_inj {connective : Connective} {parts parts' : List Filter} :
    joined connective parts = joined connective parts' ↔ parts = parts' := by
  refine ⟨fun h => ?_, congrArg _⟩
  have hempty : parts'.isEmpty = parts.isEmpty := by
    rw [← isEmpty_joined connective parts', ← h, isEmpty_joined]
  cases hparts : parts.isEmpty with
  | true => rw [List.isEmpty_iff.mp hparts, List.isEmpty_iff.mp (hempty.trans hparts)]
  | false =>
    have hobjects : parts.map Json.object = parts'.map Json.object := by
      simpa [joined, single, hempty, hparts] using h
    exact List.map_injective_iff.mpr (fun _ _ => Json.object.inj) hobjects

end Filter

namespace Condition

variable {params : Parameters}

theorem allResolved_eq (operands : List Condition) :
    allResolved params operands = operands.map (resolved params) := by
  induction operands with
  | nil => rfl
  | cons operand rest ih => rw [allResolved, List.map_cons, ih]

/-- Whether a condition constrains anything does not depend on its values. -/
theorem isVacuous_resolved (c : Condition) : isVacuous (c.resolved params) = isVacuous c := by
  induction c with
  | fields pairs => rw [resolved, isVacuous, isVacuous, List.isEmpty_map]
  | compare op field value => rfl
  | between field start stop negated => rfl
  | member field values negated => rfl
  | like field patterns connective negated =>
    rw [resolved, isVacuous, isVacuous, List.isEmpty_map]
  | not inner ih => exact ih
  | joined connective operands ih =>
    rw [resolved, isVacuous, isVacuous, allVacuous_eq, allVacuous_eq, allResolved_eq, List.all_map,
      Bool.eq_iff_iff, List.all_eq_true, List.all_eq_true]
    exact forall₂_congr fun c hc => by rw [Function.comp_apply, ih c hc]

/-- Of operands that are compiled one by one, the filters that are kept are the same, whenever the
parameters are replaced, exactly if each is. -/
theorem parts_eq_iff {operands : List Condition} {parts parts' : List Filter}
    (hparts : compileAll params operands = .ok parts)
    (hparts' : compileAll [] (allResolved params operands) = .ok parts')
    (heq : ∀ c ∈ operands, ∀ f g, compile params c = .ok f →
      compile [] (c.resolved params) = .ok g → (f = g ↔ c.KeepsLists params)) :
    parts = parts' ↔ AllKeepLists params operands := by
  induction operands generalizing parts parts' with
  | nil =>
    cases hparts
    cases hparts'
    exact iff_of_true rfl trivial
  | cons operand rest ih =>
    rw [compileAll] at hparts
    rw [allResolved, compileAll] at hparts'
    obtain ⟨f, hf, hparts⟩ := bind_eq_ok_iff.mp hparts
    obtain ⟨others, hothers, hparts⟩ := bind_eq_ok_iff.mp hparts
    obtain ⟨g, hg, hparts'⟩ := bind_eq_ok_iff.mp hparts'
    obtain ⟨others', hothers', hparts'⟩ := bind_eq_ok_iff.mp hparts'
    cases hparts
    cases hparts'
    have hhead := heq operand List.mem_cons_self f g hf hg
    have htail := ih hothers hothers' fun c hc => heq c (List.mem_cons_of_mem _ hc)
    have hempty : g.isEmpty = f.isEmpty := by
      rw [isEmpty_compile hf, isEmpty_compile hg, isVacuous_resolved]
    rw [AllKeepLists, ← hhead, ← htail, hempty]
    cases hf' : f.isEmpty with
    | true =>
      -- Both filters are empty, and neither is kept.
      have hboth : f = g := by
        rw [List.isEmpty_iff.mp hf', List.isEmpty_iff.mp (hempty.trans hf')]
      exact (and_iff_right hboth).symm
    | false => exact List.cons_eq_cons

/-- Where values are taken as they come, it does not matter when their parameters are replaced. -/
theorem eq_of_compile_resolved {c : Condition} {f g : Filter} (hf : compile params c = .ok f)
    (hg : compile [] (c.resolved params) = .ok g)
    (h : compile [] (c.resolved params) = compile params c) : f = g :=
  Except.ok.inj (hf.symm.trans (h.symm.trans hg))

/-- A condition and its resolved one are compiled to the same filter exactly if the values of pairs
stay lists, or no lists, where they count. -/
theorem filter_eq_iff {c : Condition} {f g : Filter} (hf : compile params c = .ok f)
    (hg : compile [] (c.resolved params) = .ok g) : f = g ↔ c.KeepsLists params := by
  induction c generalizing f g with
  | fields pairs =>
    rw [compile] at hf
    rw [resolved, compile] at hg
    have hresolved : g = (KeyMap.ofEntries pairs).map fun pair =>
        (pair.1, Filter.pairOperators [] (resolve params pair.2)) := by
      rw [Filter.eq_map_of_fields hg, KeyMap.ofEntries_map (resolve params), List.map_map]
      rfl
    rw [Filter.eq_map_of_fields hf, hresolved, List.map_inj_left, KeepsLists]
    refine forall₂_congr fun pair _ => ?_
    rw [Prod.mk.injEq, and_iff_right rfl, Filter.pairOperators_resolve_iff]
  | compare op field value =>
    refine iff_of_true (eq_of_compile_resolved hf hg ?_) trivial
    simp only [resolved, compile, resolve_nil]
  | between field start stop negated =>
    refine iff_of_true (eq_of_compile_resolved hf hg ?_) trivial
    cases negated <;> simp only [resolved, compile, resolve_nil]
  | member field values negated =>
    refine iff_of_true (eq_of_compile_resolved hf hg ?_) trivial
    simp only [resolved, compile, Filter.member, List.isEmpty_map, List.map_map,
      Function.comp_def, resolve_nil]
  | like field patterns connective negated =>
    refine iff_of_true (eq_of_compile_resolved hf hg ?_) trivial
    simp only [resolved, compile, Filter.like, List.map_map, Function.comp_def, resolve_nil]
  | not inner ih =>
    rw [compile] at hf
    rw [resolved, compile] at hg
    obtain ⟨f, hinner, rfl⟩ := map_eq_ok_iff.1 hf
    obtain ⟨g, hresolved, rfl⟩ := map_eq_ok_iff.1 hg
    rw [KeepsLists, ← ih hinner hresolved]
    exact Filter.not_inj
  | joined connective operands ih =>
    rw [compile] at hf
    rw [resolved, compile] at hg
    obtain ⟨parts, hparts, rfl⟩ := map_eq_ok_iff.1 hf
    obtain ⟨parts', hparts', rfl⟩ := map_eq_ok_iff.1 hg
    rw [KeepsLists, Filter.joined_inj]
    exact parts_eq_iff hparts hparts' fun c hc f g hf hg => ih c hc hf hg

/-- A condition with parameters is compiled like the one with their values in place exactly if it is
refused for the same membership, or neither is refused and the values of pairs stay lists, or no
lists, where they count. -/
theorem compile_eq_resolved_iff (params : Parameters) (c : Condition) :
    compile params c = compile [] (c.resolved params) ↔
      (c.resolved params).refusedField? = c.refusedField? ∧
        (c.refusedField? = none → c.KeepsLists params) := by
  have hplain := compile_refused params c
  have hresolved := compile_refused [] (c.resolved params)
  rw [hplain.eq_iff hresolved]
  refine and_congr_right fun hsame => forall_congr' fun hnone => ?_
  rw [hnone] at hplain
  rw [hsame, hnone] at hresolved
  obtain ⟨f, hf⟩ := hplain
  obtain ⟨g, hg⟩ := hresolved
  rw [hf, hg, Except.ok.injEq, filter_eq_iff hf hg]

/-- A parameter of a pair that is bound to a list is compared with as a whole, where the list itself
stands for a membership, and is refused if it is empty. -/
theorem compile_eq_resolved_iff_parameter_lists :
    let params : Parameters := [(":ids", .list [.nat 1, .nat 2]), (":none", .list [])]
    let c : Condition := .fields [("id", .text ":ids")]
    let d : Condition := .not (.fields [("id", .text ":none")])
    (compile params c = .ok [("id", .object [("eq", .list [.nat 1, .nat 2])])] ∧
      compile [] (c.resolved params) = .ok [("id", .object [("in", .list [.nat 1, .nat 2])])] ∧
      ¬ c.KeepsLists params ∧ compile params c ≠ compile [] (c.resolved params)) ∧
    (compile params d = .ok [("not", .object [("id", .object [("eq", .list [])])])] ∧
      (d.resolved params).refusedField? = some "id" ∧ d.refusedField? = none ∧
      compile params d ≠ compile [] (d.resolved params)) := by
  intro params c d
  have hlist : ¬ c.KeepsLists params := fun h =>
    absurd (h ("id", .text ":ids") List.mem_cons_self) (by decide)
  have hrefused : (d.resolved params).refusedField? = some "id" := rfl
  have haccepted : d.refusedField? = none := rfl
  refine ⟨⟨by decide +kernel, by decide +kernel, hlist, fun h => ?_⟩,
    ⟨by decide +kernel, hrefused, haccepted, fun h => ?_⟩⟩
  · exact hlist (((compile_eq_resolved_iff params c).mp h).2 rfl)
  · have hsame := ((compile_eq_resolved_iff params d).mp h).1
    rw [hrefused, haccepted] at hsame
    cases hsame

end Condition

end RestQuery
