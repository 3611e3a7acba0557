import RestQuery.Filter.Condition

/-!
# Filters

A filter is a JSON object. The keys `and`, `or` and `not` join filters; any other key is a field,
and its value an object of operators. The empty object filters nothing.

A condition is compiled against a table of parameters: a text that is the name of a parameter stands
for its value, also inside lists. A part of a condition that says nothing, such as a `not` around
no condition, leaves nothing in the filter.
-/

namespace RestQuery

/-- The values of parameters, by name. -/
abbrev Parameters := KeyMap Json

/-- A compiled filter: the members of its object. -/
abbrev Filter := KeyMap Json

mutual

/-- A value with its parameters replaced by their values; those are taken as they are. -/
def resolve (params : Parameters) : Json → Json
  | .text name => (params.get? name).getD (.text name)
  | .list items => .list (resolveItems params items)
  | value => value

/-- Some values with their parameters replaced. -/
def resolveItems (params : Parameters) : List Json → List Json
  | [] => []
  | item :: rest => resolve params item :: resolveItems params rest

end

theorem resolveItems_eq_map (params : Parameters) (items : List Json) :
    resolveItems params items = items.map (resolve params) := by
  induction items with
  | nil => rfl
  | cons item rest ih => simp [resolveItems, ih]

namespace Filter

/-- The filter with one member. -/
def single (key : String) (value : Json) : Filter := [(key, value)]

/-- The filter that compares a field by one operator. -/
def field (name op : String) (value : Json) : Filter :=
  single name (.object (single op value))

/-- Some filters under a connective; no filters under it say nothing. -/
def joined (connective : Connective) (parts : List Filter) : Filter :=
  if parts.isEmpty then [] else single connective.name (.list (parts.map .object))

/-- The complement of a filter; that of the empty filter says nothing. -/
def not (inner : Filter) : Filter :=
  if inner.isEmpty then [] else single "not" (.object inner)

/-- The filter for membership in some values, of which there must be one. -/
def member (params : Parameters) (name : String) (values : List Json) (negated : Bool) :
    Except Error Filter :=
  if values.isEmpty then .error (.emptyMembership name)
  else .ok (field name (if negated then "nin" else "in") (.list (values.map (resolve params))))

/-- The filter for the equality of a field with a value; a list stands for membership in it. -/
def pair (params : Parameters) : String × Json → Except Error Filter
  | (name, .list items) => member params name items false
  | (name, value) => .ok (field name Comparison.eq.name (resolve params value))

/-- The filter for the equality of fields with values. If a field occurs twice, the later pair
counts. -/
def fields (params : Parameters) (pairs : List (String × Json)) : Except Error Filter :=
  pairs.foldlM (fun filter entry => (pair params entry).map filter.overlay) []

/-- The filter for patterns. One pattern needs no connective, and none say nothing. -/
def like (params : Parameters) (name : String) (patterns : List Json) (connective : Connective)
    (negated : Bool) : Filter :=
  let parts := patterns.map fun pattern => field name "like" (resolve params pattern)
  let combined := match parts with
    | [part] => part
    | parts => joined connective parts
  if negated then not combined else combined

end Filter

namespace Condition

mutual

/-- The filter of a condition. -/
def compile (params : Parameters) : Condition → Except Error Filter
  | .fields pairs => Filter.fields params pairs
  | .compare op field value => .ok (Filter.field field op.name (resolve params value))
  | .between field start stop false =>
    .ok (Filter.single field (.object
      [(Comparison.gt.name, resolve params start), (Comparison.lt.name, resolve params stop)]))
  | .between field start stop true =>
    .ok (Filter.joined .or
      [Filter.field field Comparison.lt.name (resolve params start),
       Filter.field field Comparison.gt.name (resolve params stop)])
  | .member field values negated => Filter.member params field values negated
  | .like field patterns connective negated =>
    .ok (Filter.like params field patterns connective negated)
  | .not inner => (compile params inner).map Filter.not
  | .joined connective operands => (compileAll params operands).map (Filter.joined connective)

/-- The filters of some conditions, without those that say nothing. -/
def compileAll (params : Parameters) : List Condition → Except Error (List Filter)
  | [] => .ok []
  | operand :: rest => do
    let part ← compile params operand
    let parts ← compileAll params rest
    return if part.isEmpty then parts else part :: parts

end

end Condition

end RestQuery
