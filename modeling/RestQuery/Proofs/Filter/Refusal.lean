import Mathlib.Data.List.Lex
import RestQuery.Filter.Compile

/-!
# Conditions that are refused

A membership in no value is no filter, so a condition that asks for one anywhere is refused.
`Condition.EmptyAt` says where in the tree of a condition such a membership stands: a place is the
list of the numbers that lead to it, of the operands on the way and of the pair at the end. Places
are ordered as lists are, which is the order from left to right and in depth.

`Condition.refusedField?` looks for the field without places. It finds that of the first place
(`firstOf_emptyAt`), since the first of several things has the first place (`FirstOf.numbered`), and
a condition is refused for just this field (`compile_refused`). What comes of both is
`Condition.compile_eq_error_iff`.
-/

namespace RestQuery

namespace Condition

/-- The field of a pair, if it asks for a membership in no value. -/
def refusedPair? : String × Json → Option String
  | (field, .list []) => some field
  | _ => none

mutual

/-- The field of the first membership in no value, for which a condition is refused. -/
def refusedField? : Condition → Option String
  | .fields pairs => pairs.findSome? refusedPair?
  | .member field values _ => if values.isEmpty then some field else none
  | .compare .. | .between .. | .like .. => none
  | .not inner => refusedField? inner
  | .joined _ operands => refusedFieldOf? operands

/-- The field of the first membership in no value in some conditions. -/
def refusedFieldOf? : List Condition → Option String
  | [] => none
  | operand :: rest => (refusedField? operand).or (refusedFieldOf? rest)

end

/-- Whether a membership of a field in no value stands at a place in a condition. -/
inductive EmptyAt : Condition → List Nat → String → Prop where
  | member {field : String} {negated : Bool} : EmptyAt (.member field [] negated) [] field
  | pair {pairs : List (String × Json)} {number : Nat} {field : String}
      (h : pairs[number]? = some (field, .list [])) : EmptyAt (.fields pairs) [number] field
  | not {inner : Condition} {place : List Nat} {field : String} (h : EmptyAt inner place field) :
      EmptyAt (.not inner) (0 :: place) field
  | joined {connective : Connective} {operands : List Condition} {number : Nat}
      {operand : Condition} {place : List Nat} {field : String}
      (hoperand : operands[number]? = some operand) (h : EmptyAt operand place field) :
      EmptyAt (.joined connective operands) (number :: place) field

/-- Whether it is the first such place. -/
def FirstEmptyAt (c : Condition) (place : List Nat) (field : String) : Prop :=
  c.EmptyAt place field ∧ ∀ place' field', c.EmptyAt place' field' → place ≤ place'

end Condition

/-! ## The order of places -/

namespace Place

variable {number number' : Nat} {place place' : List Nat}

theorem nil_le (place : List Nat) : [] ≤ place :=
  not_lt.mp List.not_lex_nil

/-- Places are compared from the first number on. -/
theorem cons_le_cons_iff :
    number :: place ≤ number' :: place' ↔
      number < number' ∨ number = number' ∧ place ≤ place' := by
  have hlt : number :: place < number' :: place' ↔
      number < number' ∨ number = number' ∧ place < place' := List.cons_lex_cons_iff
  rw [le_iff_lt_or_eq, le_iff_lt_or_eq, hlt, List.cons.injEq, or_assoc, ← and_or_left]

end Place

/-! ## The first of some places -/

/-- Whether a field, where one is given, is that of the first of some places, and else there is no
place. -/
def FirstOf (stands : List Nat → String → Prop) : Option String → Prop
  | none => ∀ place field, ¬ stands place field
  | some field =>
    ∃ place, stands place field ∧ ∀ place' field', stands place' field' → place ≤ place'

/-- The places in some things, behind the number of the thing that each is in. -/
def Numbered {α : Type} (stands : α → List Nat → String → Prop) (things : List α) :
    List Nat → String → Prop
  | [], _ => False
  | number :: place, field => ∃ x, things[number]? = some x ∧ stands x place field

namespace FirstOf

variable {α : Type} {stands stands' : List Nat → String → Prop} {field? : Option String}

theorem congr (h : ∀ place field, stands place field ↔ stands' place field)
    (hfirst : FirstOf stands field?) : FirstOf stands' field? := by
  have hsame : stands = stands' := funext fun place => funext fun field => propext (h place field)
  exact hsame ▸ hfirst

section

variable {stands : α → List Nat → String → Prop} {x : α} {rest : List α}

/-- A place in the first thing comes before those in the others. -/
theorem head {field : String} (h : FirstOf (stands x) (some field)) :
    FirstOf (Numbered stands (x :: rest)) (some field) := by
  obtain ⟨place, hplace, hleast⟩ := h
  refine ⟨0 :: place, ⟨x, rfl, hplace⟩, ?_⟩
  rintro (_ | ⟨number, place'⟩) field' hstands
  · exact hstands.elim
  · obtain ⟨y, hy, hplace'⟩ := hstands
    rw [Place.cons_le_cons_iff]
    cases number with
    | zero =>
      cases hy
      exact .inr ⟨rfl, hleast place' field' hplace'⟩
    | succ number => exact .inl number.succ_pos

/-- Without a place in the first thing, all places are in the others. -/
theorem tail (hhead : FirstOf (stands x) none) (htail : FirstOf (Numbered stands rest) field?) :
    FirstOf (Numbered stands (x :: rest)) field? := by
  -- All numbers are greater by one than among the others alone, which keeps the order.
  have hzero : ∀ place field, ¬ Numbered stands (x :: rest) (0 :: place) field := by
    rintro place field ⟨y, hy, hplace⟩
    cases hy
    exact hhead place field hplace
  cases field? with
  | none =>
    rintro (_ | ⟨_ | number, place⟩) field hstands
    · exact hstands
    · exact hzero place field hstands
    · exact htail (number :: place) field hstands
  | some field =>
    obtain ⟨_ | ⟨number, place⟩, hplace, hleast⟩ := htail
    · exact hplace.elim
    · refine ⟨(number + 1) :: place, hplace, ?_⟩
      rintro (_ | ⟨_ | number', place'⟩) field' hstands
      · exact hstands.elim
      · exact absurd hstands (hzero place' field')
      · have hle := hleast (number' :: place') field' hstands
        rw [Place.cons_le_cons_iff] at hle ⊢
        exact hle.imp Nat.succ_lt_succ (And.imp_left (congrArg Nat.succ))

/-- The first place in some things is in the first of them that has any. -/
theorem numbered {first? : α → Option String} {things : List α}
    (h : ∀ x ∈ things, FirstOf (stands x) (first? x)) :
    FirstOf (Numbered stands things) (things.findSome? first?) := by
  induction things with
  | nil =>
    rintro (_ | ⟨number, place⟩) field hstands
    · exact hstands
    · obtain ⟨x, hx, -⟩ := hstands
      cases hx
  | cons x rest ih =>
    have hhead := h x List.mem_cons_self
    have htail := ih fun y hy => h y (List.mem_cons_of_mem _ hy)
    rw [List.findSome?_cons]
    cases hfirst : first? x with
    | some field => exact (hfirst ▸ hhead).head
    | none => exact (hfirst ▸ hhead).tail htail

end

end FirstOf

namespace Condition

/-- In pairs it stands in those with an empty list. -/
theorem emptyAt_fields_iff {pairs : List (String × Json)} {place : List Nat} {field : String} :
    EmptyAt (.fields pairs) place field ↔
      Numbered (fun pair place field => place = [] ∧ pair = (field, .list [])) pairs place
        field := by
  constructor
  · intro h
    cases h with
    | pair hpair => exact ⟨_, hpair, rfl, rfl⟩
  · intro h
    cases place with
    | nil => exact h.elim
    | cons number place =>
      obtain ⟨pair, hpair, rfl, rfl⟩ := h
      exact .pair hpair

theorem emptyAt_not_iff {inner : Condition} {place : List Nat} {field : String} :
    EmptyAt (.not inner) place field ↔ Numbered EmptyAt [inner] place field := by
  constructor
  · intro h
    cases h with
    | not hinner => exact ⟨inner, rfl, hinner⟩
  · intro h
    rcases place with _ | ⟨_ | number, place⟩
    · exact h.elim
    · obtain ⟨c, hc, hplace⟩ := h
      cases hc
      exact .not hplace
    · obtain ⟨c, hc, -⟩ := h
      cases hc

theorem emptyAt_joined_iff {connective : Connective} {operands : List Condition}
    {place : List Nat} {field : String} :
    EmptyAt (.joined connective operands) place field ↔
      Numbered EmptyAt operands place field := by
  constructor
  · intro h
    cases h with
    | joined hoperand hplace => exact ⟨_, hoperand, hplace⟩
  · intro h
    cases place with
    | nil => exact h.elim
    | cons number place =>
      obtain ⟨operand, hoperand, hplace⟩ := h
      exact .joined hoperand hplace

/-- At one place there is one field. -/
theorem EmptyAt.field_unique {c : Condition} {place : List Nat} {field field' : String}
    (h : c.EmptyAt place field) (h' : c.EmptyAt place field') : field = field' := by
  induction h with
  | member => cases h'; rfl
  | pair hpair =>
    cases h' with
    | pair hpair' => simpa using hpair.symm.trans hpair'
  | not _ ih =>
    cases h' with
    | not hinner => exact ih hinner
  | joined hoperand _ ih =>
    cases h' with
    | joined hoperand' hplace =>
      obtain rfl := Option.some.inj (hoperand.symm.trans hoperand')
      exact ih hplace

theorem refusedFieldOf?_eq (operands : List Condition) :
    refusedFieldOf? operands = operands.findSome? refusedField? := by
  induction operands with
  | nil => rfl
  | cons operand rest ih =>
    rw [refusedFieldOf?, List.findSome?_cons, ih]
    cases refusedField? operand <;> rfl

/-- The field that is looked for is that of the first place. -/
theorem firstOf_emptyAt (c : Condition) : FirstOf c.EmptyAt c.refusedField? := by
  induction c with
  | fields pairs =>
    refine FirstOf.congr (fun place field => emptyAt_fields_iff.symm) (FirstOf.numbered ?_)
    rintro ⟨field, value⟩ -
    by_cases hvalue : value = .list []
    · subst hvalue
      exact ⟨[], ⟨rfl, rfl⟩, fun place' _ _ => Place.nil_le place'⟩
    · have hnone : refusedPair? (field, value) = none := by
        cases value with
        | list items => cases items with
          | nil => exact absurd rfl hvalue
          | cons item rest => rfl
        | _ => rfl
      rw [hnone]
      rintro place field' ⟨-, hpair⟩
      exact hvalue (Prod.mk.inj hpair).2
  | compare op field value => exact fun place field h => nomatch h
  | between field start stop negated => exact fun place field h => nomatch h
  | member field values negated =>
    cases values with
    | nil =>
      exact ⟨[], .member, fun place' _ _ => Place.nil_le place'⟩
    | cons value rest => exact fun place field h => nomatch h
  | like field patterns connective negated => exact fun place field h => nomatch h
  | not inner ih =>
    have hsingle : refusedField? (.not inner) = [inner].findSome? refusedField? := by
      rw [refusedField?, List.findSome?_singleton]
    rw [hsingle]
    refine FirstOf.congr (fun place field => emptyAt_not_iff.symm) (FirstOf.numbered ?_)
    exact fun c hc => List.mem_singleton.mp hc ▸ ih
  | joined connective operands ih =>
    rw [refusedField?, refusedFieldOf?_eq]
    exact FirstOf.congr (fun place field => emptyAt_joined_iff.symm) (FirstOf.numbered ih)

end Condition

/-! ## What a condition is refused for -/

/-- Whether an outcome is the refusal for a membership in no value of a field, where one is given,
and else none. -/
def RefusedFor {α : Type} : Option String → Except Error α → Prop
  | none, x => ∃ a, x = .ok a
  | some field, x => x = .error (.emptyMembership field)

namespace RefusedFor

variable {α β : Type} {field? other? : Option String} {x : Except Error α}

theorem map (h : RefusedFor field? x) (f : α → β) : RefusedFor field? (x.map f) := by
  cases field? with
  | none =>
    obtain ⟨a, rfl⟩ := h
    exact ⟨f a, rfl⟩
  | some field =>
    obtain rfl : x = .error (.emptyMembership field) := h
    rfl

/-- In a sequence the first refusal counts. -/
theorem bind {f : α → Except Error β} (h : RefusedFor field? x)
    (hf : ∀ a, RefusedFor other? (f a)) : RefusedFor (field?.or other?) (x >>= f) := by
  cases field? with
  | none =>
    obtain ⟨a, rfl⟩ := h
    rw [Option.none_or]
    exact hf a
  | some field =>
    obtain rfl : x = .error (.emptyMembership field) := h
    rfl

/-- Outcomes are the same if both are refusals for one field, or if neither is a refusal and what
came out is the same. -/
theorem eq_iff {y : Except Error α} (hx : RefusedFor field? x) (hy : RefusedFor other? y) :
    x = y ↔ other? = field? ∧ (field? = none → x = y) := by
  constructor
  · rintro rfl
    refine ⟨?_, fun _ => rfl⟩
    cases field? <;> cases other? <;> simp_all [RefusedFor]
  · rintro ⟨rfl, h⟩
    cases other? with
    | none => exact h rfl
    | some field =>
      obtain rfl : x = .error (.emptyMembership field) := hx
      exact Eq.symm hy

end RefusedFor

namespace Filter

/-- A pair is refused if it asks for a membership in no value. -/
theorem pair_refused (params : Parameters) (entry : String × Json) :
    RefusedFor (Condition.refusedPair? entry) (pair params entry) := by
  obtain ⟨field, value⟩ := entry
  cases value with
  | list items =>
    cases items with
    | nil => rfl
    | cons item rest => exact ⟨_, rfl⟩
  | _ => exact ⟨_, rfl⟩

/-- Pairs are refused for the first of them that is. -/
theorem fields_refused (params : Parameters) (pairs : List (String × Json)) :
    RefusedFor (pairs.findSome? Condition.refusedPair?) (fields params pairs) := by
  unfold fields
  -- The pairs are put in one by one, so the induction is over any filter to start from.
  generalize ([] : Filter) = start
  induction pairs generalizing start with
  | nil => exact ⟨start, rfl⟩
  | cons entry rest ih =>
    have hfirst : (entry :: rest).findSome? Condition.refusedPair? =
        (Condition.refusedPair? entry).or (rest.findSome? Condition.refusedPair?) := by
      rw [List.findSome?_cons]
      cases Condition.refusedPair? entry <;> rfl
    rw [hfirst, List.foldlM_cons]
    exact ((pair_refused params entry).map _).bind ih

end Filter

namespace Condition

/-- A condition is refused for its first membership in no value, and compiles if there is none,
whatever the parameters are. -/
theorem compile_refused (params : Parameters) (c : Condition) :
    RefusedFor c.refusedField? (compile params c) := by
  induction c with
  | fields pairs =>
    rw [refusedField?, compile]
    exact Filter.fields_refused params pairs
  | compare op field value => exact ⟨_, rfl⟩
  | between field start stop negated => cases negated <;> exact ⟨_, rfl⟩
  | member field values negated =>
    rw [refusedField?, compile, Filter.member]
    cases values.isEmpty with
    | true => rfl
    | false => exact ⟨_, rfl⟩
  | like field patterns connective negated => exact ⟨_, rfl⟩
  | not inner ih =>
    rw [refusedField?, compile]
    exact ih.map Filter.not
  | joined connective operands ih =>
    have hall : RefusedFor (refusedFieldOf? operands) (compileAll params operands) := by
      induction operands with
      | nil => exact ⟨[], rfl⟩
      | cons operand rest ihrest =>
        have hrest := ihrest fun c hc => ih c (List.mem_cons_of_mem _ hc)
        rw [refusedFieldOf?, compileAll]
        refine (ih operand List.mem_cons_self).bind fun f => ?_
        rw [← Option.or_none (o := refusedFieldOf? rest)]
        exact hrest.bind fun parts => ⟨_, rfl⟩
    rw [refusedField?, compile]
    exact hall.map (Filter.joined connective)

/-- A condition compiles if no field is found. -/
theorem exists_compile_iff {params : Parameters} {c : Condition} :
    (∃ f, compile params c = .ok f) ↔ c.refusedField? = none := by
  have hrefused := compile_refused params c
  cases hfield : c.refusedField? with
  | none =>
    rw [hfield] at hrefused
    exact iff_of_true hrefused rfl
  | some field =>
    rw [hfield] at hrefused
    have herror : compile params c = .error (.emptyMembership field) := hrefused
    rw [herror]
    exact iff_of_false nofun nofun

/-- A condition has a first place with a membership in no value if it has any, and the field there
is the one that is looked for. -/
theorem refusedField?_eq_some_iff {c : Condition} {field : String} :
    c.refusedField? = some field ↔ ∃ place, c.FirstEmptyAt place field := by
  have hfirst := firstOf_emptyAt c
  constructor
  · intro hfield
    rw [hfield] at hfirst
    exact hfirst
  · rintro ⟨place, hplace, hleast⟩
    cases hfield : c.refusedField? with
    | none =>
      rw [hfield] at hfirst
      exact absurd hplace (hfirst place field)
    | some field' =>
      rw [hfield] at hfirst
      obtain ⟨place', hplace', hleast'⟩ := hfirst
      obtain rfl : place = place' :=
        le_antisymm (hleast place' field' hplace') (hleast' place field hplace)
      rw [hplace'.field_unique hplace]

theorem refusedField?_eq_none_iff {c : Condition} :
    c.refusedField? = none ↔ ∀ place field, ¬ c.EmptyAt place field := by
  have hfirst := firstOf_emptyAt c
  cases hfield : c.refusedField? with
  | none =>
    rw [hfield] at hfirst
    exact iff_of_true rfl hfirst
  | some field =>
    rw [hfield] at hfirst
    obtain ⟨place, hplace, -⟩ := hfirst
    exact iff_of_false nofun fun hnone => hnone place field hplace

/-- A condition is not compiled exactly if a membership in no value stands in it, however deep. The
error names the field of the first such place, from left to right and in depth, and there is no
other error, whatever the parameters are. -/
theorem compile_eq_error_iff (params : Parameters) (c : Condition) :
    ((∃ e, compile params c = .error e) ↔ ∃ place field, c.EmptyAt place field) ∧
      ∀ e, compile params c = .error e ↔
        ∃ place field, c.FirstEmptyAt place field ∧ e = .emptyMembership field := by
  have hrefused := compile_refused params c
  cases hfield : c.refusedField? with
  | none =>
    have hnowhere := refusedField?_eq_none_iff.mp hfield
    rw [hfield] at hrefused
    obtain ⟨f, hf⟩ := hrefused
    rw [hf]
    refine ⟨iff_of_false nofun ?_, fun e => iff_of_false nofun ?_⟩
    · rintro ⟨place, field, hplace⟩
      exact hnowhere place field hplace
    · rintro ⟨place, field, hfirst, -⟩
      exact hnowhere place field hfirst.1
  | some field =>
    obtain ⟨place, hfirst⟩ := refusedField?_eq_some_iff.mp hfield
    rw [hfield] at hrefused
    have herror : compile params c = .error (.emptyMembership field) := hrefused
    rw [herror]
    refine ⟨iff_of_true ⟨_, rfl⟩ ⟨place, field, hfirst.1⟩, fun e => ⟨?_, ?_⟩⟩
    · rintro ⟨⟩
      exact ⟨place, field, hfirst, rfl⟩
    · rintro ⟨place', field', hfirst', rfl⟩
      have hfield' := refusedField?_eq_some_iff.mpr ⟨place', hfirst'⟩
      rw [hfield] at hfield'
      rw [Option.some.inj hfield']

/-- A parameter that is bound to an empty list is no refusal, and of two memberships in no value the
one to the left counts, though it stands deeper. -/
example :
    compile [(":none", .list [])] (.joined .or
        [.fields [], .not (.joined .and [.oneOf "kind" [.text ":none"], .oneOf "id" []]),
          .equals "owner" (.list [])]) =
      .error (.emptyMembership "id") := rfl

end Condition

end RestQuery
