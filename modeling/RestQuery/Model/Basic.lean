import RestQuery.Model.Key
import RestQuery.Schema.Basic

/-!
# Models

A model is one record: its attributes, the attributes that the server is known to hold, and the
records attached to it through relations. A row with a complete primary key is a record that the
server holds.

`Model.ofRow?` reads a row. Its keys are either payloads of relations, which are read in turn, or
fields. In strict mode any other key is an error, and otherwise it is skipped.
-/

namespace RestQuery

/-- What is attached to a record through a relation. -/
inductive Related (μ : Type) where
  | one (record : μ)
  | many (records : List μ)
  /-- The relation was loaded, and there is no record. -/
  | nothing
  deriving Inhabited

/-- The single record, if that is what is attached. -/
def Related.one? {μ : Type} : Related μ → Option μ
  | one record => some record
  | many _ | nothing => none

/-- The records of a list, if that is what is attached. -/
def Related.items {μ : Type} : Related μ → List μ
  | many records => records
  | one _ | nothing => []

/-- One record. -/
structure Model where
  schema : Schema
  attributes : KeyMap Json
  /-- The attributes that the server is known to hold, if it holds the record. -/
  snapshot : Option (KeyMap Json)
  related : List (String × Related Model)
  deriving Inhabited

namespace Model

/-- A record that is not stored yet. -/
def new (s : Schema) : Model :=
  { schema := s, attributes := [], snapshot := none, related := [] }

/-- The values of the primary key, if all are present. -/
def keyOf? (s : Schema) (attributes : KeyMap Json) : Option (List Json) :=
  s.primaryKey.mapM fun field => Json.present? (KeyMap.get? attributes field)

/-- The values of the primary key, if all are present. -/
def primaryKey? (m : Model) : Option (List Json) := keyOf? m.schema m.attributes

/-- The key under which the server holds the record, else the key that the record has. -/
def keySegment? (m : Model) : Option String :=
  (keyOf? m.schema (m.snapshot.getD m.attributes)).map Key.text

/-- Whether the server is not known to hold the record. -/
def isNew (m : Model) : Bool := m.snapshot.isNone

/-- The model whose present attributes are those that the server holds. -/
def markClean (m : Model) : Model := { m with snapshot := some m.attributes }

/-- The model of which the server holds nothing. -/
def forget (m : Model) : Model := { m with snapshot := none }

/-- The attributes that differ from those that the server holds; all of a new record. -/
def dirty (m : Model) : KeyMap Json :=
  match m.snapshot with
  | none => m.attributes
  | some old => m.attributes.filter fun (name, value) =>
      !((KeyMap.get? old name).any fun held => held.same value)

/-- Fails on an attribute that is not declared. -/
def checkAttribute (m : Model) (name : String) : Except Error Unit :=
  if m.schema.hasField name then .ok () else .error (.unknownAttribute m.schema.typeName name)

/-- The value of a declared attribute, if it was set. -/
def get (m : Model) (name : String) : Except Error (Option Json) :=
  (m.checkAttribute name).map fun _ => KeyMap.get? m.attributes name

/-- Sets a declared attribute. Any other one is refused, and the model handed back as it is. -/
def assign (m : Model) (name : String) (value : Json) : Model × Except Error Unit :=
  match m.checkAttribute name with
  | .error e => (m, .error e)
  | .ok _ => ({ m with attributes := KeyMap.insert m.attributes name value }, .ok ())

/-- The model with a declared attribute set. -/
def set (m : Model) (name : String) (value : Json) : Except Error Model :=
  let (m, outcome) := m.assign name value
  outcome.map fun _ => m

/-- What is attached through a relation, if it was loaded. -/
def related? (m : Model) (name : String) : Option (Related Model) :=
  KeyMap.get? m.related name

/-- Whether a relation was loaded. -/
def isLoaded (m : Model) (name : String) : Bool := KeyMap.contains m.related name

/-- The model with something attached, without a look at the schema. -/
def attach (m : Model) (name : String) (r : Related Model) : Model :=
  { m with related := KeyMap.insert m.related name r }

/-- The model with something attached through a declared relation. -/
def populate (m : Model) (name : String) (r : Related Model) : Except Error Model :=
  (m.schema.relation? name).map fun _ => m.attach name r

/-- The model with the declared attributes of an answer put over its own. -/
def absorb (m : Model) : Json → Model
  | .object members =>
    { m with attributes := m.attributes.overlay (members.filter fun entry =>
        m.schema.hasField entry.1) }
  | _ => m

/-- The model as the server holds it, if its primary key is complete. -/
def settle (m : Model) : Model :=
  if m.primaryKey?.isSome then m.markClean else m

/-- The error for a row that is not an object. -/
def notARow (s : Schema) (row : Json) : Error :=
  .undecodable ("expected an object for `" ++ s.typeName ++ "`, got " ++ row.compact)

mutual

/-- Reads a row as a record of a type. -/
def ofRow? (g : Catalog) (strict : Bool) (s : Schema) : Json → Except Error Model
  | .object members => (ofMembers? g strict s (new s) members).map settle
  | row => .error (notARow s row)

/-- Reads the members of a row into a model. -/
def ofMembers? (g : Catalog) (strict : Bool) (s : Schema) (m : Model) :
    List (String × Json) → Except Error Model
  | [] => .ok m
  | (key, value) :: rest =>
    match s.relationForKey? key with
    | some relation => do
      let r ← ofPayload? g strict (g.target relation) relation.multiple value
      ofMembers? g strict s (m.attach relation.name r) rest
    | none =>
      if s.hasField key then
        ofMembers? g strict s { m with attributes := KeyMap.insert m.attributes key value } rest
      else if strict then .error (.unknownAttribute s.typeName key)
      else ofMembers? g strict s m rest

/-- Reads the payload of a relation. A single record is a list of one where several are expected,
and the first of a list counts where one is. -/
def ofPayload? (g : Catalog) (strict : Bool) (s : Schema) (multiple : Bool) :
    Json → Except Error (Related Model)
  | .null => .ok .nothing
  | .list rows =>
    if multiple then (ofRows? g strict s rows).map .many
    else match rows with
      | [] => .ok .nothing
      | row :: _ => (ofRow? g strict s row).map .one
  | .object members => (ofMembers? g strict s (new s) members).map fun m =>
      if multiple then .many [m.settle] else .one m.settle
  | row => .error (notARow s row)

/-- Reads some rows. -/
def ofRows? (g : Catalog) (strict : Bool) (s : Schema) : List Json → Except Error (List Model)
  | [] => .ok []
  | row :: rest => do
    let m ← ofRow? g strict s row
    let ms ← ofRows? g strict s rest
    return m :: ms

end

mutual

/-- The attributes of a record with its related records under their names. -/
def toJson : Model → Json
  | ⟨_, attributes, _, related⟩ =>
    .object (KeyMap.overlay attributes (relatedJson related))

/-- What is attached, by the names of the relations. -/
def relatedJson : List (String × Related Model) → KeyMap Json
  | [] => []
  | (name, .one m) :: rest => (name, toJson m) :: relatedJson rest
  | (name, .many ms) :: rest => (name, .list (listJson ms)) :: relatedJson rest
  | (name, .nothing) :: rest => (name, .null) :: relatedJson rest

/-- Some records. -/
def listJson : List Model → List Json
  | [] => []
  | m :: rest => toJson m :: listJson rest

end

end Model

end RestQuery
