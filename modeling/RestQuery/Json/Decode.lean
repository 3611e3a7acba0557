import RestQuery.Json.Text
import RestQuery.Text.Marks
import RestQuery.Text.Printable

/-!
# Typed values in JSON

A decoder reads a value of some type out of a JSON value, or says what it met and what it expected.
A record is an object with the fields under their names, or the list of their values in the order of
declaration; an object may have further members, a list may not be longer than the record.

The members of an object are read in the order of their keys, and what is missing is looked for
afterwards, so that of two faults a member of the wrong type is told first.
-/

namespace RestQuery.Json

/-- A reader of values of some type. -/
abbrev Decoder (α : Type) := Json → Except String α

namespace Decoder

/-- The last digits of an escaped character. -/
def hexDigits (n : Nat) : String := String.ofList (Nat.toDigits 16 n)

/-- A character within quotation marks in a message. One that cannot be printed on its own is
written as its number. -/
def quotedChar (c : Char) : String :=
  if c = '"' then "\\\""
  else if c = '\\' then "\\\\"
  else if c = '\t' then "\\t"
  else if c = '\n' then "\\n"
  else if c = '\r' then "\\r"
  else if c.toNat = 0 then "\\0"
  else if Text.isPrintable c && !Text.isExtender c then c.toString
  else "\\u\x7b" ++ hexDigits c.toNat ++ "\x7d"

/-- What a value is, for a message. -/
def describe : Json → String
  | .null => "null"
  | .bool true => "boolean `true`"
  | .bool false => "boolean `false`"
  | .number (.whole n) => "integer `" ++ toString n ++ "`"
  | .number (.real x) => "floating point `" ++ (Number.real x).text ++ "`"
  | .text s => "string \"" ++ String.join (s.toList.map quotedChar) ++ "\""
  | .list _ => "sequence"
  | .object _ => "map"

/-- The message for a value of another type. -/
def wrongType (value : Json) (expected : String) : String :=
  "invalid type: " ++ describe value ++ ", expected " ++ expected

/-- The message for a value out of range. -/
def wrongValue (value : Json) (expected : String) : String :=
  "invalid value: " ++ describe value ++ ", expected " ++ expected

/-- A text. -/
def text : Decoder String
  | .text s => .ok s
  | value => .error (wrongType value "a string")

/-- A truth value. -/
def bool : Decoder Bool
  | .bool b => .ok b
  | value => .error (wrongType value "a boolean")

/-- A count of at most `most`; `kind` names its type. -/
def nat (most : Nat) (kind : String) : Decoder Nat
  | .number (.whole n) =>
    if 0 ≤ n ∧ n.toNat ≤ most then .ok n.toNat
    else .error (wrongValue (.number (.whole n)) kind)
  | value => .error (wrongType value kind)

/-- A count of 64 bits. -/
def word64 : Decoder Nat := nat 0xFFFFFFFFFFFFFFFF "u64"

/-- A count of 32 bits. -/
def word32 : Decoder Nat := nat 0xFFFFFFFF "u32"

/-- A value, or `null` for none. -/
def optional {α : Type} (inner : Decoder α) : Decoder (Option α)
  | .null => .ok none
  | value => (inner value).map some

/-- A field of a record of type `ρ`: its name, how it is read into the record, and whether a record
may lack it. -/
structure Field (ρ : Type) where
  name : String
  read : ρ → Json → Except String ρ
  required : Bool := false

/-- A field that is read by a decoder and set by a function. -/
def Field.of {ρ α : Type} (name : String) (decoder : Decoder α) (put : ρ → α → ρ)
    (required : Bool := false) : Field ρ :=
  { name := name
    read := fun record value => (decoder value).map (put record)
    required := required }

/-- Reads the members of an object into a record. -/
def readMembers {ρ : Type} (fields : List (Field ρ)) (record : ρ) :
    List (String × Json) → Except String ρ
  | [] => .ok record
  | (key, value) :: rest =>
    match fields.find? (·.name == key) with
    | some field => do readMembers fields (← field.read record value) rest
    | none => readMembers fields record rest

/-- Reads the items of a list into a record, each as the next field. `length` is the number of
fields before. What a list is too short for is told by `short`. -/
def readItems {ρ : Type} (short : Nat → String) (length : Nat) :
    List (Field ρ) → ρ → List Json → Except String ρ
  | [], record, items =>
    if items.isEmpty then .ok record
    else .error ("invalid length " ++ toString (length + items.length) ++
      ", expected fewer elements in array")
  | field :: rest, record, items =>
    match items with
    | item :: items => do
      readItems short (length + 1) rest (← field.read record item) items
    | [] =>
      if field.required then .error (short length) else readItems short (length + 1) rest record []

/-- A record of a type, whose fields start from those of `start`. With `shortLists`, a list may end
early. -/
def record {ρ : Type} (typeName : String) (start : ρ) (fields : List (Field ρ))
    (shortLists : Bool := true) : Decoder ρ
  | .object members => do
    let record ← readMembers fields start members
    match fields.find? fun field => field.required && !KeyMap.contains members field.name with
    | some field => .error ("missing field `" ++ field.name ++ "`")
    | none => .ok record
  | .list items =>
    let count := toString fields.length ++ if fields.length = 1 then " element" else " elements"
    let short (length : Nat) := "invalid length " ++ toString length ++
      ", expected struct " ++ typeName ++ " with " ++ count
    readItems short 0 (if shortLists then fields else fields.map ({ · with required := true }))
      start items
  | value => .error (wrongType value ("struct " ++ typeName))

end Decoder

end RestQuery.Json
