import RestQuery.Filter.Compile
import RestQuery.Json.Text

/-!
# Filters as query pairs

A value nested in objects and lists is sent as one pair for each of its leaves, whose key spells the
way to the leaf in brackets: `filter[id][in][0]`. Objects and lists without members leave no pair.
-/

namespace RestQuery.Wire

/-- A key with one more bracket. -/
def bracket (key part : String) : String := key ++ "[" ++ part ++ "]"

mutual

/-- The pairs of a value under a key. Truth values are sent as digits and `null` as no text. -/
def flatten (key : String) : Json → List (String × String)
  | .object members => flattenMembers key members
  | .list items => flattenItems key 0 items
  | .bool true => [(key, "1")]
  | .bool false => [(key, "0")]
  | .null => [(key, "")]
  | .text s => [(key, s)]
  | .number n => [(key, n.text)]

/-- The pairs of the members of an object. -/
def flattenMembers (key : String) : List (String × Json) → List (String × String)
  | [] => []
  | (name, value) :: rest => flatten (bracket key name) value ++ flattenMembers key rest

/-- The pairs of the items of a list, the first of which has the given number. -/
def flattenItems (key : String) (index : Nat) : List Json → List (String × String)
  | [] => []
  | item :: rest =>
    flatten (bracket key (toString index)) item ++ flattenItems key (index + 1) rest

end

/-- The pairs of a filter. -/
def filterPairs (filter : Filter) : List (String × String) :=
  flattenMembers "filter" filter

end RestQuery.Wire
