import Mathlib.Data.List.Forall2
import RestQuery.Proofs.Filter.Evaluation
import RestQuery.Proofs.Outcome

/-!
# Compilation keeps the meaning of conditions

`Condition.meaning` reads a condition under an interpretation of the comparisons, without filters:
a pair of a field and a value is an equality or a membership, a range is open at both ends, patterns
are joined by their connective, and a part that constrains nothing (`Condition.isVacuous`) is left
out of whatever encloses it. `holds_compile` shows that the compiled filter holds exactly if the
condition does, and that it is empty exactly if the condition constrains nothing.

The proof is an induction over the condition. Emptiness comes first (`isEmpty_compile`), since the
filters of operands that say nothing are dropped on the way (`compileAll_eq_ok`), and the meaning of
a joined condition drops the operands themselves.
-/

namespace RestQuery

namespace Condition

mutual

/-- Whether a condition constrains nothing. -/
def isVacuous : Condition → Bool
  | .fields pairs => pairs.isEmpty
  | .compare .. | .between .. | .member .. => false
  | .like _ patterns _ _ => patterns.isEmpty
  | .not inner => isVacuous inner
  | .joined _ operands => allVacuous operands

/-- Whether none of some conditions constrains anything. -/
def allVacuous : List Condition → Bool
  | [] => true
  | operand :: rest => isVacuous operand && allVacuous rest

end

mutual

/-- Whether a condition holds. -/
def meaning (I : Interpretation) (params : Parameters) : Condition → Bool
  | .fields pairs => pairs.all fun (field, value) =>
      I field (if value.isList then "in" else "eq") (resolve params value)
  | .compare op field value => I field op.name (resolve params value)
  | .between field start stop false =>
    I field "gt" (resolve params start) && I field "lt" (resolve params stop)
  | .between field start stop true =>
    I field "lt" (resolve params start) || I field "gt" (resolve params stop)
  | .member field values negated =>
    I field (if negated then "nin" else "in") (.list (values.map (resolve params)))
  | .like field patterns connective negated =>
    patterns.isEmpty ||
      connective.combine (patterns.map fun pattern => I field "like" (resolve params pattern))
        != negated
  | .not inner => isVacuous inner || !meaning I params inner
  | .joined connective operands =>
    allVacuous operands || connective.combine (meanings I params operands)

/-- Which of some conditions hold, leaving out those that constrain nothing. -/
def meanings (I : Interpretation) (params : Parameters) : List Condition → List Bool
  | [] => []
  | operand :: rest =>
    if isVacuous operand then meanings I params rest
    else meaning I params operand :: meanings I params rest

end

mutual

/-- Whether every field of a condition has a name that a filter reads as a field, and no pairs of
fields and values name a field twice. -/
def WellNamed : Condition → Prop
  | .fields pairs =>
    (∀ pair ∈ pairs, Filter.isField pair.1) ∧ (pairs.map Prod.fst).Nodup
  | .compare _ field _ | .between field .. | .member field .. | .like field .. =>
    Filter.isField field
  | .not inner => WellNamed inner
  | .joined _ operands => AllWellNamed operands

/-- Whether this is so for each of some conditions. -/
def AllWellNamed : List Condition → Prop
  | [] => True
  | operand :: rest => WellNamed operand ∧ AllWellNamed rest

end

end Condition

namespace Filter

variable {I : Interpretation} {params : Parameters}

/-- The operators that a pair of a field and a value stands for. -/
def pairOperators (params : Parameters) (value : Json) : Json :=
  .object (single (if value.isList then "in" else "eq") (resolve params value))

/-- The filter of a pair has one member. -/
theorem pair_eq_ok {name : String} {value : Json} {part : Filter}
    (h : pair params (name, value) = .ok part) :
    part = single name (pairOperators params value) := by
  cases value with
  | list items =>
    simp only [pair, member] at h
    split at h
    · cases h
    · cases h
      simp [field, pairOperators, Json.isList, resolve, resolveItems_eq_map]
  | _ =>
    cases h
    simp [field, pairOperators, Json.isList, Comparison.name]

/-- The filter of some pairs is the map of their operators. -/
theorem fields_eq_ok {pairs : List (String × Json)} {f : Filter} (h : fields params pairs = .ok f) :
    f = KeyMap.ofEntries (pairs.map fun (name, value) => (name, pairOperators params value)) := by
  unfold fields at h
  unfold KeyMap.ofEntries
  -- The pairs are put in one by one, so the induction is over any filter to start from.
  generalize ([] : Filter) = start at h ⊢
  induction pairs generalizing start with
  | nil => cases h; rfl
  | cons entry rest ih =>
    obtain ⟨name, value⟩ := entry
    rw [List.foldlM_cons] at h
    cases hpair : pair params (name, value) with
    | error e => rw [hpair] at h; cases h
    | ok part =>
      rw [hpair, pair_eq_ok hpair] at h
      exact ih _ h

/-- Under distinct names the filter of some pairs holds if every pair does. -/
theorem holds_fields {pairs : List (String × Json)} {f : Filter}
    (hnames : ∀ pair ∈ pairs, isField pair.1) (hnodup : (pairs.map Prod.fst).Nodup)
    (h : fields params pairs = .ok f) :
    holds I f = pairs.all fun (name, value) =>
      I name (if value.isList then "in" else "eq") (resolve params value) := by
  -- Distinct names leave no pair overwritten, so the map is the pairs in another order.
  have hkeys : ((pairs.map fun (name, value) => (name, pairOperators params value)).map
      Prod.fst).Nodup := by simpa [Function.comp_def] using hnodup
  rw [fields_eq_ok h, holds_perm (KeyMap.ofEntries_perm hkeys), holds_eq_all, List.all_map,
    Bool.eq_iff_iff, List.all_eq_true, List.all_eq_true]
  refine forall₂_congr fun pair hpair => ?_
  simp [pairOperators, memberHolds_object (hnames pair hpair), single]

/-- The filter of some patterns, before it is negated, joins one filter for each of them. A single
one needs no connective. -/
theorem like_shape (params : Parameters) (name : String) (patterns : List Json)
    (connective : Connective) (negated : Bool) :
    ∃ f, like params name patterns connective negated = (if negated then not f else f) ∧
      (f = joined connective (patterns.map fun pattern =>
          field name "like" (resolve params pattern)) ∨
        ∃ pattern, patterns = [pattern] ∧ f = field name "like" (resolve params pattern)) := by
  rcases patterns with _ | ⟨pattern, _ | ⟨other, rest⟩⟩
  · exact ⟨_, rfl, .inl rfl⟩
  · exact ⟨_, rfl, .inr ⟨pattern, rfl, rfl⟩⟩
  · exact ⟨_, rfl, .inl rfl⟩

/-- What the filter of some patterns says, before it is negated. -/
theorem like_eq (name : String) (patterns : List Json) (connective : Connective) (negated : Bool) :
    ∃ f, like params name patterns connective negated = (if negated then not f else f) ∧
      f.isEmpty = patterns.isEmpty ∧
      ∀ I, isField name → holds I f =
        (patterns.isEmpty ||
          connective.combine
            (patterns.map fun pattern => I name "like" (resolve params pattern))) := by
  obtain ⟨f, hlike, hf⟩ := like_shape params name patterns connective negated
  refine ⟨f, hlike, ?_⟩
  rcases hf with rfl | ⟨pattern, rfl, rfl⟩
  · refine ⟨by simp, fun I hname => ?_⟩
    simp [holds_joined, holds_field hname, Function.comp_def]
  · refine ⟨rfl, fun I hname => ?_⟩
    rw [holds_field hname]
    cases connective <;> simp [Connective.combine]

/-- The filter of some patterns holds if they match, joined and perhaps negated; if there are none,
it says nothing. -/
theorem holds_like {name : String} (hname : isField name) (patterns : List Json)
    (connective : Connective) (negated : Bool) :
    holds I (like params name patterns connective negated) =
      (patterns.isEmpty ||
        connective.combine (patterns.map fun pattern => I name "like" (resolve params pattern))
          != negated) := by
  obtain ⟨f, hlike, hempty, hf⟩ := @like_eq params name patterns connective negated
  rw [hlike]
  cases negated with
  | false => simp [hf I hname]
  | true => cases hp : patterns.isEmpty <;> simp [holds_not, hempty, hf I hname, hp]

theorem isEmpty_like (name : String) (patterns : List Json) (connective : Connective)
    (negated : Bool) :
    (like params name patterns connective negated).isEmpty = patterns.isEmpty := by
  obtain ⟨f, hlike, hempty, -⟩ := @like_eq params name patterns connective negated
  rw [hlike, ← hempty]
  cases negated <;> simp

end Filter

namespace Condition

variable {I : Interpretation} {params : Parameters}

theorem allVacuous_eq (operands : List Condition) :
    allVacuous operands = operands.all isVacuous := by
  induction operands with
  | nil => rfl
  | cons operand rest ih => simp only [allVacuous, List.all_cons, ih]

theorem meanings_eq (operands : List Condition) :
    meanings I params operands =
      (operands.filter fun c => !isVacuous c).map (meaning I params) := by
  induction operands with
  | nil => rfl
  | cons operand rest ih =>
    cases h : isVacuous operand <;> simp [meanings, ih, h]

theorem allWellNamed_iff (operands : List Condition) :
    AllWellNamed operands ↔ ∀ c ∈ operands, WellNamed c := by
  induction operands with
  | nil => simp [AllWellNamed]
  | cons operand rest ih => simp [AllWellNamed, ih]

/-- Operands are compiled one by one, and those with an empty filter are dropped. -/
theorem compileAll_eq_ok {operands : List Condition} {parts : List Filter}
    (h : compileAll params operands = .ok parts) :
    ∃ compiled, List.Forall₂ (fun c f => compile params c = .ok f) operands compiled ∧
      parts = compiled.filter fun f => !f.isEmpty := by
  induction operands generalizing parts with
  | nil =>
    cases h
    exact ⟨[], .nil, rfl⟩
  | cons operand rest ih =>
    rw [compileAll] at h
    cases hpart : compile params operand with
    | error e => rw [hpart] at h; cases h
    | ok part =>
      cases hrest : compileAll params rest with
      | error e => rw [hpart, hrest] at h; cases h
      | ok others =>
        rw [hpart, hrest] at h
        cases h
        obtain ⟨compiled, hcompiled, rfl⟩ := ih hrest
        refine ⟨part :: compiled, .cons hpart hcompiled, ?_⟩
        cases hempty : part.isEmpty <;> simp [hempty]

/-- Of operands that are compiled one by one, those with an empty filter are those that constrain
nothing. -/
theorem isEmpty_kept {operands : List Condition} {compiled : List Filter}
    (hcompiled : List.Forall₂ (fun c f => compile params c = .ok f) operands compiled)
    (hempty : ∀ c ∈ operands, ∀ f, compile params c = .ok f → f.isEmpty = isVacuous c) :
    (compiled.filter fun f => !f.isEmpty).isEmpty = operands.all isVacuous := by
  induction hcompiled with
  | nil => rfl
  | @cons operand part rest others hpart _ ih =>
    have hhead := hempty operand List.mem_cons_self part hpart
    have htail := ih fun c hc => hempty c (List.mem_cons_of_mem _ hc)
    cases hvacuous : isVacuous operand <;> simp_all

/-- The filter of a condition is empty exactly if the condition constrains nothing. -/
theorem isEmpty_compile {c : Condition} {f : Filter} (h : compile params c = .ok f) :
    f.isEmpty = isVacuous c := by
  induction c generalizing f with
  | fields pairs =>
    rw [compile] at h
    rw [Filter.fields_eq_ok h, KeyMap.isEmpty_ofEntries, List.isEmpty_map, isVacuous]
  | compare op field value =>
    cases h
    rfl
  | between field start stop negated => cases negated <;> cases h <;> rfl
  | member field values negated =>
    rw [compile, Filter.member] at h
    split at h
    · cases h
    · cases h
      rfl
  | like field patterns connective negated =>
    cases h
    exact Filter.isEmpty_like field patterns connective negated
  | not inner ih =>
    rw [compile] at h
    obtain ⟨g, hg, rfl⟩ := map_eq_ok_iff.1 h
    rw [Filter.isEmpty_not, isVacuous, ih hg]
  | joined connective operands ih =>
    rw [compile] at h
    obtain ⟨parts, hparts, rfl⟩ := map_eq_ok_iff.1 h
    obtain ⟨compiled, hcompiled, rfl⟩ := compileAll_eq_ok hparts
    rw [Filter.isEmpty_joined, isVacuous, allVacuous_eq]
    exact isEmpty_kept hcompiled fun c hc f hf => ih c hc hf

/-- Of operands that are compiled one by one, the filters that are kept hold if the operands do that
constrain anything. -/
theorem map_holds_kept {operands : List Condition} {compiled : List Filter}
    (hcompiled : List.Forall₂ (fun c f => compile params c = .ok f) operands compiled)
    (hholds : ∀ c ∈ operands, ∀ f, compile params c = .ok f →
      Filter.holds I f = meaning I params c) :
    (compiled.filter fun f => !f.isEmpty).map (Filter.holds I) =
      (operands.filter fun c => !isVacuous c).map (meaning I params) := by
  induction hcompiled with
  | nil => rfl
  | @cons operand part rest others hpart _ ih =>
    have hempty := isEmpty_compile hpart
    have hhead := hholds operand List.mem_cons_self part hpart
    have htail := ih fun c hc => hholds c (List.mem_cons_of_mem _ hc)
    cases hvacuous : isVacuous operand <;> simp_all

/-- The compiled filter of a condition holds exactly if the condition does. -/
theorem holds_of_compile {c : Condition} {f : Filter} (hnamed : WellNamed c)
    (h : compile params c = .ok f) : Filter.holds I f = meaning I params c := by
  induction c generalizing f with
  | fields pairs =>
    rw [compile] at h
    rw [meaning, Filter.holds_fields hnamed.1 hnamed.2 h]
  | compare op field value =>
    cases h
    rw [meaning, Filter.holds_field hnamed]
  | between field start stop negated =>
    have hname : Filter.isField field := hnamed
    -- Inside, the bounds are two operators of one field; outside, two filters joined by `or`.
    cases negated with
    | false =>
      cases h
      simp [meaning, Filter.holds_single, Filter.memberHolds_object hname, Comparison.name]
    | true =>
      cases h
      simp [meaning, Filter.holds_joined, Filter.holds_field hname, Comparison.name,
        Connective.combine]
  | member field values negated =>
    rw [compile, Filter.member] at h
    split at h
    · cases h
    · cases h
      rw [meaning, Filter.holds_field hnamed]
  | like field patterns connective negated =>
    cases h
    rw [meaning, Filter.holds_like hnamed]
  | not inner ih =>
    rw [compile] at h
    obtain ⟨g, hg, rfl⟩ := map_eq_ok_iff.1 h
    rw [Filter.holds_not, meaning, isEmpty_compile hg, ih hnamed hg]
  | joined connective operands ih =>
    rw [compile] at h
    obtain ⟨parts, hparts, rfl⟩ := map_eq_ok_iff.1 h
    obtain ⟨compiled, hcompiled, rfl⟩ := compileAll_eq_ok hparts
    have hall := (allWellNamed_iff operands).1 hnamed
    -- The filters that are kept are those of the operands that constrain anything.
    rw [Filter.holds_joined, meaning, meanings_eq, allVacuous_eq,
      isEmpty_kept hcompiled fun c _ f hf => isEmpty_compile hf,
      map_holds_kept hcompiled fun c hc f hf => ih c hc (hall c hc) hf]

/-- Compilation keeps the meaning: under every interpretation of the comparisons the filter of a
condition holds exactly if the condition does. The filter is empty exactly if the condition
constrains nothing. -/
theorem holds_compile (I : Interpretation) (params : Parameters) (c : Condition) (f : Filter)
    (hnamed : WellNamed c) (h : compile params c = .ok f) :
    Filter.holds I f = meaning I params c ∧ (f = [] ↔ isVacuous c) := by
  refine ⟨holds_of_compile hnamed h, ?_⟩
  rw [← isEmpty_compile h, List.isEmpty_iff]

/-- A negated pattern list under a negation, a negation of nothing, and a membership of a
parameter. -/
theorem holds_compile_negations :
    let params : Parameters := [(":id", .nat 7)]
    let c : Condition := .joined .or
      [.not (.like "name" [.text "a", .text "b"] .or true), .not (.joined .and [.fields []]),
        .fields [("kind", .text "b"), ("id", .list [.text ":id", .nat 9])]]
    let f : Filter := [("or", .list
      [.object [("not", .object [("not", .object [("or", .list
          [.object [("name", .object [("like", .text "a")])],
            .object [("name", .object [("like", .text "b")])]])])])],
        .object [("id", .object [("in", .list [.nat 7, .nat 9])]),
          ("kind", .object [("eq", .text "b")])]])]
    let I : Interpretation := fun field _ _ => field == "id" || field == "kind"
    c.WellNamed ∧ c.compile params = .ok f ∧
      Filter.holds I f = meaning I params c ∧ (f = [] ↔ isVacuous c) := by
  intro params c f I
  have hnamed : c.WellNamed := by simp [c, WellNamed, AllWellNamed, Filter.isField]
  have hcompile : c.compile params = .ok f := by decide +kernel
  exact ⟨hnamed, hcompile, holds_compile I params c f hnamed hcompile⟩

end Condition

end RestQuery
