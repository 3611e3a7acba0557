import RestQuery.Filter.Compile

/-!
# The evaluation of filters

An interpretation tells of every comparison of a field, by an operator, with a value, whether it
holds. Under it a filter holds if all its members do: `and`, `or` and `not` are read as connectives,
and any other key as a field, all of whose operators must hold.

`Filter.holds` is that reading, as a function on the members of a filter. The lemmas say what it
gives for each of the ways in which filters are put together: `holds_field`, `holds_joined`,
`holds_not` and `holds_insert`.
-/

namespace RestQuery

/-- Which comparisons of a field, by an operator, with a value hold. -/
abbrev Interpretation := String → String → Json → Bool

/-- Whether all or any of some statements hold. -/
def Connective.combine : Connective → List Bool → Bool
  | and, statements => statements.all id
  | or, statements => statements.any id

namespace Filter

/-- Whether a key of a filter is a field, and not one of the words that join filters. -/
def isField (key : String) : Bool := key != "and" && key != "or" && key != "not"

mutual

/-- Whether all members of a filter hold. -/
def holds (I : Interpretation) : List (String × Json) → Bool
  | [] => true
  | (key, body) :: rest => memberHolds I key body && holds I rest

/-- Whether a member of a filter holds. One that is no connective, with the filters that it joins,
and no field, with its operators, does not. -/
def memberHolds (I : Interpretation) (key : String) : Json → Bool
  | .list parts => (key == "and" && allHold I parts) || (key == "or" && anyHolds I parts)
  | .object members =>
    (key == "not" && !holds I members) ||
      (isField key && members.all fun (op, value) => I key op value)
  | _ => false

/-- Whether all of some filters hold. -/
def allHold (I : Interpretation) : List Json → Bool
  | [] => true
  | .object members :: rest => holds I members && allHold I rest
  | _ :: _ => false

/-- Whether any of some filters holds. -/
def anyHolds (I : Interpretation) : List Json → Bool
  | [] => false
  | .object members :: rest => holds I members || anyHolds I rest
  | _ :: rest => anyHolds I rest

end

variable {I : Interpretation}

/-- A filter holds if each of its members does. -/
theorem holds_eq_all (f : Filter) : holds I f = f.all fun e => memberHolds I e.1 e.2 := by
  induction f with
  | nil => rfl
  | cons e rest ih => simp only [holds, List.all_cons, ih]

theorem holds_iff {f : Filter} :
    holds I f = true ↔ ∀ entry ∈ f, memberHolds I entry.1 entry.2 = true := by
  rw [holds_eq_all, List.all_eq_true]

/-- Filters with the same members hold alike, in whatever order the members stand. -/
theorem holds_perm {f g : Filter} (h : f.Perm g) : holds I f = holds I g := by
  rw [holds_eq_all, holds_eq_all]
  exact h.all_eq

/-- A filter with one more member holds if both do. -/
theorem holds_insert {f : Filter} {key : String} (h : key ∉ KeyMap.keys f) (body : Json) :
    holds I (KeyMap.insert f key body) = (memberHolds I key body && holds I f) :=
  holds_perm (KeyMap.insert_perm h body)

/-- A filter with one member holds if that does. -/
theorem holds_single (key : String) (body : Json) :
    holds I (single key body) = memberHolds I key body := by
  simp only [single, holds, Bool.and_true]

/-- The operators of a field hold if each comparison does. -/
theorem memberHolds_object {name : String} (hname : isField name)
    (operators : List (String × Json)) :
    memberHolds I name (.object operators) = operators.all fun (op, value) => I name op value := by
  have hnot : (name == "not") = false := by
    simp only [isField, Bool.and_eq_true, bne_iff_ne] at hname
    simpa using hname.2
  simp only [memberHolds, hname, hnot, Bool.false_and, Bool.true_and, Bool.false_or]

/-- One operator of a field holds if its comparison does. -/
theorem memberHolds_single {name : String} (hname : isField name) (op : String) (value : Json) :
    memberHolds I name (.object (single op value)) = I name op value := by
  rw [memberHolds_object hname, single, List.all_cons, List.all_nil, Bool.and_true]

/-- The filter of one comparison holds if that does. -/
theorem holds_field {name : String} (hname : isField name) (op : String) (value : Json) :
    holds I (field name op value) = I name op value := by
  rw [field, holds_single, memberHolds_single hname]

theorem allHold_map_object (parts : List Filter) :
    allHold I (parts.map .object) = parts.all (holds I) := by
  induction parts with
  | nil => rfl
  | cons part rest ih => simp only [List.map_cons, allHold, List.all_cons, ih]

theorem anyHolds_map_object (parts : List Filter) :
    anyHolds I (parts.map .object) = parts.any (holds I) := by
  induction parts with
  | nil => rfl
  | cons part rest ih => simp only [List.map_cons, anyHolds, List.any_cons, ih]

/-- Joined filters hold if all or any do; if there are none, they say nothing. -/
theorem holds_joined (connective : Connective) (parts : List Filter) :
    holds I (joined connective parts) =
      (parts.isEmpty || connective.combine (parts.map (holds I))) := by
  cases hparts : parts.isEmpty with
  | true => simp [joined, hparts, holds]
  | false =>
    have hjoined : joined connective parts =
        single connective.name (.list (parts.map .object)) := by simp [joined, hparts]
    rw [hjoined, holds_single, Bool.false_or]
    cases connective with
    | and => simp [memberHolds, Connective.name, Connective.combine, allHold_map_object]
    | or => simp [memberHolds, Connective.name, Connective.combine, anyHolds_map_object]

theorem holds_joined_cons (connective : Connective) (part : Filter) (rest : List Filter) :
    holds I (joined connective (part :: rest)) =
      connective.combine ((part :: rest).map (holds I)) := by
  rw [holds_joined, List.isEmpty_cons, Bool.false_or]

/-- A complement holds if the filter does not; that of the empty filter says nothing. -/
theorem holds_not (f : Filter) : holds I (not f) = (f.isEmpty || !holds I f) := by
  cases hf : f.isEmpty with
  | true => simp [not, hf, holds]
  | false => simp [not, hf, holds_single, memberHolds, isField]

@[simp] theorem isEmpty_single (key : String) (body : Json) :
    (single key body).isEmpty = false := rfl

@[simp] theorem isEmpty_field (name op : String) (value : Json) :
    (field name op value).isEmpty = false := rfl

@[simp] theorem isEmpty_joined (connective : Connective) (parts : List Filter) :
    (joined connective parts).isEmpty = parts.isEmpty := by
  cases h : parts.isEmpty <;> simp [joined, h]

@[simp] theorem isEmpty_not (f : Filter) : (not f).isEmpty = f.isEmpty := by
  cases h : f.isEmpty <;> simp [not, h]

end Filter

end RestQuery
