import RestQuery.KeyMap
import RestQuery.Json.Number

/-!
# JSON values

An object is a map from texts, so the order in which its members were written is not part of it.
`Json.same` compares values as JSON does: numbers of one kind by value, so that the two zeros in
binary64 are the same, and everything else by structure.
-/

namespace RestQuery

open Json (Number)

/-- A JSON value. -/
inductive Json where
  | null
  | bool (value : Bool)
  | number (value : Number)
  | text (value : String)
  | list (items : List Json)
  /-- The members in increasing order of their keys. -/
  | object (members : List (String × Json))
  deriving Inhabited, Repr

namespace Json

/-- A whole number as a value. -/
def nat (n : Nat) : Json := .number (.whole n)

/-- A text, or `null` for none. -/
def optionalText (s : Option String) : Json := (s.map text).getD .null

/-- A whole number, or `null` for none. -/
def optionalNat (n : Option Nat) : Json := (n.map nat).getD .null

/-- A map of texts as an object. -/
def textMap (m : KeyMap String) : Json := .object (m.map fun (key, value) => (key, .text value))

/-- Some texts as a list. -/
def texts (items : List String) : Json := .list (items.map text)

/-- Some pairs of texts, each as a list. -/
def textPairs (pairs : List (String × String)) : Json :=
  .list (pairs.map fun (key, value) => .list [.text key, .text value])

/-- The object with the given members, of which the later counts if two have one key. -/
def ofMembers (members : List (String × Json)) : Json := .object (KeyMap.ofEntries members)

/-- Whether the value is a list. -/
def isList : Json → Bool
  | .list _ => true
  | _ => false

/-- Whether the value is an object. -/
def isObject : Json → Bool
  | .object _ => true
  | _ => false

/-- Whether the value is `null`. -/
def isNull : Json → Bool
  | .null => true
  | _ => false

/-- The member of an object; no other value has members. -/
def member? : Json → String → Option Json
  | .object members, key => KeyMap.get? members key
  | _, _ => none

/-- The value as a count of 64 bits. -/
def nat? : Json → Option Nat
  | .number n => n.nat?
  | _ => none

/-- The value itself, unless it is missing or `null`. -/
def present? : Option Json → Option Json
  | some .null => none
  | value => value

mutual

/-- Decides whether two values are equal. -/
def decEq : (a b : Json) → Decidable (a = b)
  | .null, b => match b with
    | .null => .isTrue rfl
    | .bool _ | .number _ | .text _ | .list _ | .object _ => .isFalse nofun
  | .bool x, b => match b with
    | .bool y => decidable_of_iff (x = y) (by simp)
    | .null | .number _ | .text _ | .list _ | .object _ => .isFalse nofun
  | .number x, b => match b with
    | .number y => decidable_of_iff (x = y) (by simp)
    | .null | .bool _ | .text _ | .list _ | .object _ => .isFalse nofun
  | .text x, b => match b with
    | .text y => decidable_of_iff (x = y) (by simp)
    | .null | .bool _ | .number _ | .list _ | .object _ => .isFalse nofun
  | .list x, b => match b with
    | .list y => match decEqList x y with
      | .isTrue h => .isTrue (by rw [h])
      | .isFalse h => .isFalse (by simpa using h)
    | .null | .bool _ | .number _ | .text _ | .object _ => .isFalse nofun
  | .object x, b => match b with
    | .object y => match decEqMembers x y with
      | .isTrue h => .isTrue (by rw [h])
      | .isFalse h => .isFalse (by simpa using h)
    | .null | .bool _ | .number _ | .text _ | .list _ => .isFalse nofun

/-- Decides whether two lists of values are equal. -/
def decEqList : (a b : List Json) → Decidable (a = b)
  | [], b => match b with
    | [] => .isTrue rfl
    | _ :: _ => .isFalse nofun
  | x :: xs, b => match b with
    | [] => .isFalse nofun
    | y :: ys => match decEq x y, decEqList xs ys with
      | .isTrue h, .isTrue hs => .isTrue (by rw [h, hs])
      | .isFalse h, _ => .isFalse (by simp [h])
      | _, .isFalse hs => .isFalse (by simp [hs])

/-- Decides whether two lists of members are equal. -/
def decEqMembers : (a b : List (String × Json)) → Decidable (a = b)
  | [], b => match b with
    | [] => .isTrue rfl
    | _ :: _ => .isFalse nofun
  | (k, x) :: xs, b => match b with
    | [] => .isFalse nofun
    | (l, y) :: ys => match decEq x y, decEqMembers xs ys with
      | .isTrue h, .isTrue hs =>
        if hk : k = l then .isTrue (by rw [h, hs, hk]) else .isFalse (by simp [hk])
      | .isFalse h, _ => .isFalse (by simp [h])
      | _, .isFalse hs => .isFalse (by simp [hs])

end

instance : DecidableEq Json := decEq

mutual

/-- Whether two values are the same for JSON. -/
def same : Json → Json → Bool
  | .null, .null => true
  | .bool x, .bool y => x == y
  | .number x, .number y => x.same y
  | .text x, .text y => x == y
  | .list x, .list y => sameList x y
  | .object x, .object y => sameMembers x y
  | _, _ => false

/-- Whether two lists hold the same values. -/
def sameList : List Json → List Json → Bool
  | [], [] => true
  | x :: xs, y :: ys => same x y && sameList xs ys
  | _, _ => false

/-- Whether two objects have the same members. -/
def sameMembers : List (String × Json) → List (String × Json) → Bool
  | [], [] => true
  | (k, x) :: xs, (l, y) :: ys => k == l && same x y && sameMembers xs ys
  | _, _ => false

end

mutual

/-- A value is the same as itself. -/
theorem same_refl : (x : Json) → x.same x = true
  | .null => rfl
  | .bool value => beq_self_eq_true value
  | .number value => value.same_refl
  | .text value => beq_self_eq_true value
  | .list items => sameList_refl items
  | .object members => sameMembers_refl members

theorem sameList_refl : (items : List Json) → sameList items items = true
  | [] => rfl
  | x :: rest => by rw [sameList, same_refl x, sameList_refl rest]; rfl

theorem sameMembers_refl : (members : List (String × Json)) → sameMembers members members = true
  | [] => rfl
  | (key, x) :: rest => by
    rw [sameMembers, same_refl x, sameMembers_refl rest, beq_self_eq_true key]
    rfl

end

end Json

end RestQuery
