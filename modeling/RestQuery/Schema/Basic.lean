import RestQuery.Error
import RestQuery.Schema.Inflection

/-!
# Schemas

A schema describes a type of records: its fields, its primary key and its relations to other types.
A relation names its target type; `Catalog.target` finds it, so that types may refer to each other
in a circle.
-/

namespace RestQuery

/-- A declared link from one type of records to another. -/
structure Relation where
  name : String
  /-- The name of the target type. -/
  target : String
  /-- Whether a record has any number of related records, and not at most one. -/
  multiple : Bool
  /-- The fields that agree: those of the target, each with the one of the type itself. -/
  link : List (String × String)
  /-- The key of a response row that holds the related records, where it is not the name. -/
  payloadKey : Option String := none
  deriving DecidableEq, Inhabited

namespace Relation

/-- The key of a response row that holds the related records. -/
def responseKey (r : Relation) : String := r.payloadKey.getD r.name

end Relation

/-- A type of records. -/
structure Schema where
  typeName : String
  fields : List String
  primaryKey : List String := ["id"]
  /-- The resource path, where it does not follow from the name. -/
  resource : Option String := none
  relations : List Relation := []
  deriving DecidableEq, Inhabited

namespace Schema

/-- The path under which the records of the type are found. -/
def resourcePath (s : Schema) : String :=
  s.resource.getD (Inflection.resourcePath s.typeName)

/-- Whether the type declares a field. -/
def hasField (s : Schema) (name : String) : Bool := s.fields.contains name

/-- The relation of a name. -/
def relation? (s : Schema) (name : String) : Except Error Relation :=
  match s.relations.find? (·.name == name) with
  | some r => .ok r
  | none => .error (.unknownRelation s.typeName name)

/-- A relation has the name that it is found under. -/
theorem name_of_relation? {s : Schema} {r : Relation} {name : String}
    (h : s.relation? name = .ok r) : r.name = name := by
  unfold Schema.relation? at h
  split at h
  · rename_i found hfound
    obtain rfl := Except.ok.inj h
    have hname : (found.name == name) = true :=
      List.find?_some (p := fun r : Relation => r.name == name) hfound
    exact eq_of_beq hname
  · cases h

/-- The first relation whose records a response row holds under a key. -/
def relationForKey? (s : Schema) (key : String) : Option Relation :=
  s.relations.find? (·.responseKey == key)

end Schema

/-- The types of records that a backend serves. -/
abbrev Catalog := List Schema

namespace Catalog

/-- The type of a name. -/
def find? (g : Catalog) (typeName : String) : Option Schema :=
  List.find? (fun s => s.typeName == typeName) g

/-- The type that a relation leads to. A type that is not in the catalog has no fields. -/
def target (g : Catalog) (r : Relation) : Schema :=
  (g.find? r.target).getD { typeName := r.target, fields := [] }

end Catalog

end RestQuery
