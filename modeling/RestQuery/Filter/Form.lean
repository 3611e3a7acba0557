import RestQuery.Filter.Condition

/-!
# The JSON form of conditions

Each node of a condition is an object with one member that names the kind of the node. A node that
may be negated tells so in a further member, and patterns tell how they are joined.
-/

namespace RestQuery.Condition

mutual

/-- A condition in JSON. -/
def toJson : Condition → Json
  | .fields pairs =>
    .ofMembers [("hash", .list (pairs.map fun (field, value) => .list [.text field, value]))]
  | .compare op field value => .ofMembers [("simple", .list [.text op.name, .text field, value])]
  | .between field start stop negated =>
    .ofMembers [("between", .list [.text field, start, stop]), ("negate", .bool negated)]
  | .member field values negated =>
    .ofMembers [("in", .list [.text field, .list values]), ("negate", .bool negated)]
  | .like field patterns connective negated =>
    .ofMembers [("like", .list [.text field, .list patterns]),
      ("connective", .text connective.name), ("negate", .bool negated)]
  | .not inner => .ofMembers [("not", toJson inner)]
  | .joined connective operands => .ofMembers [(connective.name, .list (listJson operands))]

/-- Some conditions in JSON. -/
def listJson : List Condition → List Json
  | [] => []
  | operand :: rest => toJson operand :: listJson rest

end

end RestQuery.Condition
