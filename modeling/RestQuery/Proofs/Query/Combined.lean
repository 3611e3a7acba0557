import RestQuery.Proofs.Filter.Meaning
import RestQuery.Query.Step

/-!
# Conditions that are joined one by one

A query is narrowed and widened in steps, each of which joins one more condition to those so far
(`Query.Step.addition?`). Read from left to right, a step goes around all that was there before it
(`Condition.nest`). `Query.combine` spares a level where the condition so far is already joined by
the connective of the step, and puts the new operand behind the others.

Both compile alike (`Compiled.Alike`): what comes out is the same error, or filters that hold under
the same interpretations. One step is `combine_alike`, which rests on two facts of joined filters: a
connective may be put around the first of its parts, whatever parts of it say nothing
(`Filter.alike_append`), and a part may be replaced by one that is alike (`Filter.alike_cons`).
-/

namespace RestQuery

/-- Whether all or any of some statements hold can be asked of the first ones first. -/
theorem Connective.combine_append (connective : Connective) (first others : List Bool) :
    connective.combine (first ++ others) =
      connective.combine (connective.combine first :: others) := by
  cases connective <;> simp [combine]

/-- Whether two outcomes are the same error, or filters of which both or none say something, and
which hold under the same interpretations. -/
inductive Compiled.Alike : Except Error Filter → Except Error Filter → Prop where
  | error (e : Error) : Alike (.error e) (.error e)
  | ok {f g : Filter} (hempty : f.isEmpty = g.isEmpty)
      (hholds : ∀ I, Filter.holds I f = Filter.holds I g) : Alike (.ok f) (.ok g)

namespace Compiled.Alike

variable {x y z : Except Error Filter}

theorem refl : ∀ x, Alike x x
  | .error e => .error e
  | .ok _ => .ok rfl fun _ => rfl

theorem trans (hxy : Alike x y) (hyz : Alike y z) : Alike x z := by
  cases hxy with
  | error e => exact hyz
  | ok hempty hholds =>
    cases hyz with
    | ok hempty' hholds' =>
      exact .ok (hempty.trans hempty') fun I => (hholds I).trans (hholds' I)

end Compiled.Alike

namespace Filter

/-- A filter as a part, unless it says nothing. -/
def kept (f : Filter) : List Filter := if f.isEmpty then [] else [f]

variable {f g : Filter}

theorem kept_of_not_isEmpty (h : f.isEmpty = false) : kept f = [f] := by
  rw [kept, h, if_neg Bool.false_ne_true]

theorem kept_of_isEmpty (h : f.isEmpty = true) : kept f = [] := by
  rw [kept, h, if_pos rfl]

/-- A connective may be put around the first of its parts. -/
theorem alike_append (connective : Connective) (first others : List Filter) :
    Compiled.Alike (.ok (joined connective (first ++ others)))
      (.ok (joined connective (kept (joined connective first) ++ others))) := by
  cases first with
  | nil => exact .ok rfl fun _ => rfl
  | cons part rest =>
    rw [kept_of_not_isEmpty (isEmpty_joined connective (part :: rest))]
    refine .ok (by simp) fun I => ?_
    calc holds I (joined connective (part :: (rest ++ others)))
        = connective.combine ((part :: rest).map (holds I) ++ others.map (holds I)) := by
          rw [holds_joined_cons, ← List.cons_append, List.map_append]
      _ = connective.combine
            (connective.combine ((part :: rest).map (holds I)) :: others.map (holds I)) :=
          connective.combine_append _ _
      _ = holds I (joined connective (joined connective (part :: rest) :: others)) := by
          rw [← holds_joined_cons connective part rest, holds_joined_cons connective _ others,
            List.map_cons]

/-- A part may be replaced by one that is alike. -/
theorem alike_cons (connective : Connective) (hempty : f.isEmpty = g.isEmpty)
    (hholds : ∀ I, holds I f = holds I g) (others : List Filter) :
    Compiled.Alike (.ok (joined connective (kept f ++ others)))
      (.ok (joined connective (kept g ++ others))) := by
  cases hf : f.isEmpty with
  | true =>
    rw [kept_of_isEmpty hf, kept_of_isEmpty (hempty ▸ hf)]
    exact .ok rfl fun _ => rfl
  | false =>
    rw [kept_of_not_isEmpty hf, kept_of_not_isEmpty (hempty ▸ hf)]
    refine .ok (by simp) fun I => ?_
    rw [List.singleton_append, List.singleton_append, holds_joined_cons, holds_joined_cons,
      List.map_cons, List.map_cons, hholds I]

end Filter

namespace Condition

/-- A condition with others joined to it one by one, each to all that was there before. -/
def nest (c : Condition) (additions : List (Connective × Condition)) : Condition :=
  additions.foldl (fun c (connective, d) => .joined connective [c, d]) c

/-- An operand behind others is compiled after them. -/
theorem compileAll_concat (params : Parameters) (operands : List Condition) (c : Condition) :
    compileAll params (operands ++ [c]) =
      (compileAll params operands).bind fun parts =>
        (compile params c).map fun f => parts ++ f.kept := by
  induction operands with
  | nil =>
    show compileAll params [c] = (compile params c).map fun f => [] ++ f.kept
    rw [compileAll, compileAll]
    cases compile params c with
    | error e => rfl
    | ok f => rfl
  | cons operand rest ih =>
    rw [List.cons_append, compileAll, compileAll, ih]
    cases compile params operand with
    | error e => rfl
    | ok part =>
      cases compileAll params rest with
      | error e => rfl
      | ok parts =>
        cases compile params c with
        | error e => rfl
        | ok f =>
          show Except.ok (if part.isEmpty then parts ++ f.kept else part :: (parts ++ f.kept)) =
            Except.ok ((if part.isEmpty then parts else part :: parts) ++ f.kept)
          cases part.isEmpty <;> rfl

/-- An operand that is joined to others. -/
theorem compile_joined_concat (params : Parameters) (connective : Connective)
    (operands : List Condition) (c : Condition) :
    compile params (.joined connective (operands ++ [c])) =
      (compileAll params operands).bind fun parts =>
        (compile params c).map fun f => Filter.joined connective (parts ++ f.kept) := by
  rw [compile, compileAll_concat]
  cases compileAll params operands with
  | error e => rfl
  | ok parts => cases compile params c <;> rfl

/-- Two operands that are joined. -/
theorem compile_joined_pair (params : Parameters) (connective : Connective) (c d : Condition) :
    compile params (.joined connective [c, d]) =
      (compile params c).bind fun f =>
        (compile params d).map fun g => Filter.joined connective (f.kept ++ g.kept) := by
  have hfirst := compileAll_concat params [] c
  have hconcat := compile_joined_concat params connective [c] d
  rw [List.singleton_append] at hconcat
  rw [List.nil_append] at hfirst
  rw [hconcat, hfirst]
  cases compile params c <;> rfl

/-- An operand may be put behind those that are joined already. -/
theorem alike_concat (params : Parameters) (connective : Connective) (operands : List Condition)
    (c : Condition) :
    Compiled.Alike (compile params (.joined connective (operands ++ [c])))
      (compile params (.joined connective [.joined connective operands, c])) := by
  rw [compile_joined_concat, compile_joined_pair, compile]
  cases compileAll params operands with
  | error e => exact .error e
  | ok parts =>
    cases compile params c with
    | error e => exact .error e
    | ok f => exact Filter.alike_append connective parts f.kept

/-- What is joined may be replaced by what compiles alike. -/
theorem alike_pair {params : Parameters} (connective : Connective) {c c' : Condition}
    (h : Compiled.Alike (compile params c) (compile params c')) (d : Condition) :
    Compiled.Alike (compile params (.joined connective [c, d]))
      (compile params (.joined connective [c', d])) := by
  rw [compile_joined_pair, compile_joined_pair]
  generalize compile params c = x, compile params c' = x' at h
  cases h with
  | error e => exact .error e
  | ok hempty hholds =>
    cases compile params d with
    | error e => exact .error e
    | ok f => exact Filter.alike_cons connective hempty hholds f.kept

end Condition

namespace Query

/-- What a step joins to the condition of a query, and by which connective. -/
def Step.addition? : Step → Option (Connective × Condition)
  | .andFilter c => some (.and, c)
  | .orFilter c => some (.or, c)
  | .whereEq field value => some (.and, .equals field value)
  | .whereCompare op field value => some (.and, .compare op field value)
  | .whereIn field values => some (.and, .oneOf field values)
  | .whereLike field pattern => some (.and, .matching field pattern)
  | _ => none

/-- A step that joins a condition does nothing else. -/
theorem apply_of_addition? {g : Catalog} {q : Query} {step : Step} {connective : Connective}
    {c : Condition} (h : step.addition? = some (connective, c)) :
    q.apply g step = .ok (q.combine connective c) := by
  cases step <;> cases h <;> rfl

/-- A condition that is joined to the one so far compiles like the two of them. -/
theorem combine_alike {q : Query} {c : Condition} (hc : q.condition = some c)
    (connective : Connective) (d : Condition) :
    ∃ e, q.combine connective d = { q with condition := some e } ∧
      ∀ params, Compiled.Alike (Condition.compile params e)
        (Condition.compile params (.joined connective [c, d])) := by
  rw [combine, hc]
  cases c with
  | joined existing operands =>
    by_cases hsame : existing = connective
    · -- The only step that is not written as the nested one.
      subst hsame
      refine ⟨.joined existing (operands ++ [d]), by simp, fun params => ?_⟩
      exact Condition.alike_concat params existing operands d
    · exact ⟨_, by simp [hsame], fun params => Compiled.Alike.refl _⟩
  | _ => exact ⟨_, rfl, fun params => Compiled.Alike.refl _⟩

/-- What some steps join to a condition compiles as if each of them went around all before, from any
condition on that compiles like the one so far. -/
theorem applyAll_alike (g : Catalog) {steps : List Step}
    (hsteps : ∀ step ∈ steps, step.addition?.isSome) {q : Query} {c nested : Condition}
    (hc : q.condition = some c)
    (hnested : ∀ params, Compiled.Alike (c.compile params) (nested.compile params)) :
    ∃ d, q.applyAll g steps = .ok { q with condition := some d } ∧
      ∀ params, Compiled.Alike (d.compile params)
        ((nested.nest (steps.filterMap Step.addition?)).compile params) := by
  -- After the first step neither side is what it was, but both still compile alike.
  induction steps generalizing q c nested with
  | nil =>
    refine ⟨c, ?_, hnested⟩
    rw [applyAll, ← hc]
  | cons step rest ih =>
    obtain ⟨⟨connective, d⟩, haddition⟩ := Option.isSome_iff_exists.mp
      (hsteps step List.mem_cons_self)
    obtain ⟨e, hcombine, halike⟩ := combine_alike hc connective d
    have hstep : ∀ params, Compiled.Alike (e.compile params)
        (Condition.compile params (.joined connective [nested, d])) := fun params =>
      (halike params).trans (Condition.alike_pair connective (hnested params) d)
    obtain ⟨last, happly, hlast⟩ := ih
      (fun step hstep => hsteps step (List.mem_cons_of_mem _ hstep))
      (q := { q with condition := some e }) rfl hstep
    refine ⟨last, ?_, ?_⟩
    · rw [applyAll, apply_of_addition? haddition, hcombine]
      exact happly
    · rw [List.filterMap_cons_some haddition]
      exact hlast

/-- Conditions that are joined to the one of a query step by step, by `and` or by `or`, compile as
if each of them were joined to all before as a whole: to the same error, or to a filter that holds
under the same interpretations. Nothing else of the query changes. -/
theorem applyAll_nested (g : Catalog) (q : Query) (c : Condition) (steps : List Step)
    (hc : q.condition = some c) (hsteps : ∀ step ∈ steps, step.addition?.isSome) :
    ∃ d, q.applyAll g steps = .ok { q with condition := some d } ∧
      ∀ params, Compiled.Alike (d.compile params)
        ((c.nest (steps.filterMap Step.addition?)).compile params) :=
  applyAll_alike g hsteps hc fun _ => .refl _

/-- Two alternatives, one of them empty, are added to a conjunction without content. The filters
differ in a level, and hold alike. -/
theorem applyAll_nested_alternatives :
    let c : Condition := .joined .and [.fields []]
    let q : Query := { condition := some c }
    let steps : List Step := [.whereEq "id" (.text ":id"), .orFilter (.not (.fields [])),
      .orFilter (.equals "vip" (.bool true)), .whereIn "kind" [.text "a"]]
    let d : Condition := .joined .and
      [.joined .or [.joined .and [.fields [], .equals "id" (.text ":id")], .not (.fields []),
        .equals "vip" (.bool true)], .oneOf "kind" [.text "a"]]
    let params : Parameters := [(":id", .nat 7)]
    let id : Json := .object [("and", .list [.object [("id", .object [("eq", .nat 7)])]])]
    let vip : Json := .object [("vip", .object [("eq", .bool true)])]
    let kind : Json := .object [("kind", .object [("in", .list [.text "a"])])]
    let flat : Filter := [("and", .list [.object [("or", .list [id, vip])], kind])]
    let nested : Filter :=
      [("and", .list [.object [("or", .list [.object [("or", .list [id])], vip])], kind])]
    q.condition = some c ∧ (∀ step ∈ steps, step.addition?.isSome) ∧
      q.applyAll [] steps = .ok { q with condition := some d } ∧
        d.compile params = .ok flat ∧
          (c.nest (steps.filterMap Step.addition?)).compile params = .ok nested ∧
            ∀ I, Filter.holds I flat = Filter.holds I nested := by
  intro c q steps d params id vip kind flat nested
  have hsteps : ∀ step ∈ steps, step.addition?.isSome := by decide +kernel
  have hflat : d.compile params = .ok flat := by decide +kernel
  have hnested : (c.nest (steps.filterMap Step.addition?)).compile params = .ok nested := by
    decide +kernel
  obtain ⟨d', happly, halike⟩ := applyAll_nested [] q c steps rfl hsteps
  have hd : some d' = some d := congrArg Query.condition (Except.ok.inj (happly.symm.trans rfl))
  cases hd
  have hboth := halike params
  rw [hflat, hnested] at hboth
  cases hboth with
  | ok _ hholds => exact ⟨rfl, hsteps, happly, hflat, hnested, hholds⟩

end Query

end RestQuery
