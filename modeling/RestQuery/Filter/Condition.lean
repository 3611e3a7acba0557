import RestQuery.Error
import RestQuery.Text.Blank

/-!
# Conditions

A condition is a tree of comparisons of fields with values. `Condition.ofOperator?` reads the form
in which an operator, a field and a value are given apart, such as `not between`, `age` and
`[18, 65]`.
-/

namespace RestQuery

/-- A comparison of a field with one value. -/
inductive Comparison where
  | eq
  | neq
  | lt
  | gt
  | lte
  | gte
  deriving DecidableEq, Repr

namespace Comparison

/-- The name of the comparison in a filter. -/
def name : Comparison → String
  | eq => "eq"
  | neq => "neq"
  | lt => "lt"
  | gt => "gt"
  | lte => "lte"
  | gte => "gte"

/-- The comparison that a text names, by its name or by its sign. -/
def parse? (text : String) : Except Error Comparison :=
  match Text.lower (Text.trim text) with
  | "=" | "eq" => .ok eq
  | "!=" | "<>" | "neq" => .ok neq
  | "<" | "lt" => .ok lt
  | ">" | "gt" => .ok gt
  | "<=" | "lte" => .ok lte
  | ">=" | "gte" => .ok gte
  | _ => .error (.unsupportedOperator text)

end Comparison

/-- How several conditions are joined. -/
inductive Connective where
  | and
  | or
  deriving DecidableEq, Inhabited, Repr

namespace Connective

/-- The name of the connective in a filter. -/
def name : Connective → String
  | and => "and"
  | or => "or"

/-- The connective that a text names. -/
def parse? (text : String) : Except Error Connective :=
  match Text.lower (Text.trim text) with
  | "and" => .ok and
  | "or" => .ok or
  | _ => .error (.unsupportedOperator text)

end Connective

/-- A condition on a record. -/
inductive Condition where
  /-- Every field equals its value; a list means that it is one of the items. -/
  | fields (pairs : List (String × Json))
  /-- A field compares with a value. -/
  | compare (op : Comparison) (field : String) (value : Json)
  /-- A field lies strictly between two values, or strictly outside of them. -/
  | between (field : String) (start stop : Json) (negated : Bool)
  /-- A field is one of some values, or none of them. -/
  | member (field : String) (values : List Json) (negated : Bool)
  /-- A field matches all or any of some patterns, or not so. -/
  | like (field : String) (patterns : List Json) (connective : Connective) (negated : Bool)
  | not (inner : Condition)
  /-- All or any of some conditions. -/
  | joined (connective : Connective) (operands : List Condition)
  deriving Inhabited

namespace Condition

/-- Induction over a condition, where a joined one may assume the statement for its operands. -/
@[elab_as_elim, induction_eliminator]
theorem induction {motive : Condition → Prop}
    (fields : ∀ pairs, motive (.fields pairs))
    (compare : ∀ op field value, motive (.compare op field value))
    (between : ∀ field start stop negated, motive (.between field start stop negated))
    (member : ∀ field values negated, motive (.member field values negated))
    (like : ∀ field patterns connective negated, motive (.like field patterns connective negated))
    (not : ∀ inner, motive inner → motive (.not inner))
    (joined : ∀ connective operands, (∀ c ∈ operands, motive c) →
      motive (.joined connective operands)) : ∀ c, motive c
  | .fields pairs => fields pairs
  | .compare op field value => compare op field value
  | .between field start stop negated => between field start stop negated
  | .member field values negated => member field values negated
  | .like field patterns connective negated => like field patterns connective negated
  | .not inner => not inner (induction fields compare between member like not joined inner)
  | .joined connective operands => joined connective operands fun c _ =>
      induction fields compare between member like not joined c

/-- A field equals a value, or is one of the items of a list. -/
def equals (field : String) (value : Json) : Condition := .fields [(field, value)]

/-- A field matches a pattern. -/
def matching (field : String) (pattern : Json) : Condition := .like field [pattern] .and false

/-- A field is one of some values. -/
def oneOf (field : String) (values : List Json) : Condition := .member field values false

/-- A value as several: a list as its items, `null` as none. -/
def itemsOf : Json → List Json
  | .list items => items
  | .null => []
  | value => [value]

/-- A condition from an operator, a field and a value. The error names the operator as it was
given, except that a comparison is named trimmed and in lower case. -/
def ofOperator? (op field : String) (value : Json) : Except Error Condition :=
  let name := Text.lower (Text.trim op)
  let bounds (negated : Bool) : Except Error Condition :=
    match value with
    | .list [start, stop] => .ok (.between field start stop negated)
    | _ => .error (.unsupportedOperator (op ++ " needs a [start, end] pair"))
  match name with
  | "in" => .ok (.member field (itemsOf value) false)
  | "not in" => .ok (.member field (itemsOf value) true)
  | "between" => bounds false
  | "not between" => bounds true
  | "like" => .ok (.like field (itemsOf value) .and false)
  | "not like" => .ok (.like field (itemsOf value) .and true)
  | "or like" => .ok (.like field (itemsOf value) .or false)
  | "or not like" => .ok (.like field (itemsOf value) .or true)
  | _ => (Comparison.parse? name).map fun comparison => .compare comparison field value

/-- Some conditions under a connective given by name. -/
def ofConnective? (connective : String) (operands : List Condition) : Except Error Condition :=
  (Connective.parse? connective).map fun c => .joined c operands

end Condition

end RestQuery
