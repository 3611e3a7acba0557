import RestQuery.Page.Cursor
import RestQuery.Text.Cut

/-!
# Loading relations by further requests

The paths of relations to load form a forest: a relation named by several paths is one tree, whose
subtrees are loaded onto the related records. For every tree the records are of two kinds. Those
that the server expanded the relation of keep what it sent, and only the subtrees are loaded onto
it. For the others a single query reads all related records, which are then attached by the fields
of the link.
-/

namespace RestQuery

/-- A relation to load, with the relations to load onto the related records. -/
inductive RelationTree where
  | node (name : String) (nested : List RelationTree)
  deriving Inhabited

namespace RelationTree

/-- Changes the relations below a name, which is added if the forest lacks it. -/
def place (name : String) (change : List RelationTree → List RelationTree) :
    List RelationTree → List RelationTree
  | [] => [.node name (change [])]
  | .node other nested :: rest =>
    if other = name then .node other (change nested) :: rest
    else .node other nested :: place name change rest

/-- The forest with a path added, given by its names. -/
def graft : List String → List RelationTree → List RelationTree
  | [], forest => forest
  | name :: rest, forest => place name (graft rest) forest

/-- The forest of some paths, whose names are separated by points. -/
def ofPaths (paths : List String) : List RelationTree :=
  paths.foldl (fun forest path => graft (Text.pieces '.' path) forest) []

end RelationTree

namespace Relation

/-- Adds a value to a list that does not hold it. -/
def addValue (values : List Json) (value : Json) : List Json :=
  if values.any (·.same value) then values else values ++ [value]

/-- The pairs of target fields and values that a record is linked by, if all are present. -/
def linkPairs? (r : Relation) (m : Model) : Option (List (String × Json)) :=
  r.link.mapM fun (targetField, localField) =>
    (Json.present? (KeyMap.get? m.attributes localField)).map fun value => (targetField, value)

/-- The condition that the related records of some records meet, if any of these has a link. A link
by one field asks for any of the values, one by several fields for any of the combinations. -/
def condition? (r : Relation) (models : List Model) : Option Condition :=
  match r.link with
  | [(targetField, localField)] =>
    let values := models.filterMap fun m => Json.present? (KeyMap.get? m.attributes localField)
    match values.foldl addValue [] with
    | [] => none
    | values => some (.oneOf targetField values)
  | _ =>
    match models.filterMap r.linkPairs? with
    | [] => none
    | combinations => some (.joined .or (combinations.map .fields))

/-- Whether a record of the target type belongs to a record: every pair of fields of the link holds
values of one text, and there is such a pair. -/
def links (r : Relation) (m candidate : Model) : Bool :=
  !r.link.isEmpty && r.link.all fun (targetField, localField) =>
    match KeyMap.get? candidate.attributes targetField,
        Json.present? (KeyMap.get? m.attributes localField) with
    | some target, some own => target.keyText == own.keyText
    | _, _ => false

/-- What belongs to a record among some records of the target type. -/
def pick (r : Relation) (candidates : List Model) (m : Model) : Related Model :=
  let found := candidates.filter (r.links m)
  if r.multiple then .many found
  else match found with
    | first :: _ => .one first
    | [] => .nothing

end Relation

namespace Related

/-- The records of what is attached. -/
def records {μ : Type} : Related μ → List μ
  | one record => [record]
  | many records => records
  | nothing => []

/-- What is attached with its records exchanged, in order, for as many others, and the others that
are left. -/
def refill {μ : Type} : Related μ → List μ → Related μ × List μ
  | many old, records => (many (records.take old.length), records.drop old.length)
  | one _, record :: records => (one record, records)
  | one _, [] => (nothing, [])
  | nothing, records => (nothing, records)

end Related

namespace Model

/-- The model without what is attached through a relation. -/
def detach (m : Model) (name : String) : Model :=
  { m with related := KeyMap.erase m.related name }

/-- Takes what is attached through a relation from the models at some positions. -/
def takeAt (name : String) : List Nat → List Model → List (Nat × Related Model) × List Model
  | [], models => ([], models)
  | i :: rest, models =>
    let taken := (models[i]?.bind (·.related? name)).getD .nothing
    let others := takeAt name rest (models.modify i (·.detach name))
    ((i, taken) :: others.1, others.2)

/-- Puts back what was taken, with its records exchanged, in order, for others. -/
def putBack (name : String) :
    List (Nat × Related Model) → List Model → List Model → Except Error (List Model)
  | [], _, models => .ok models
  | (i, taken) :: rest, records, models => do
    let filled := taken.refill records
    let models ← match models[i]? with
      | some m => (m.populate name filled.1).map (models.set i)
      | none => pure models
    putBack name rest filled.2 models

end Model

namespace Connection

variable {σ : Type}

/-- All records of a query, with its relations loaded by a given function. -/
def allWith (conn : Connection σ) (load : Loader σ) (q : Query) : Session σ RecordSet := do
  let c ← (Cursor.of conn.catalog q : Except Error Cursor)
  c.collect conn load

/-- Loads relations onto the records that are attached through a relation to the models at some
positions. -/
def loadInlineAt (relation : Relation) (load : Loader σ) (positions : List Nat) : Loader σ :=
  fun models => do
    let (taken, models) := Model.takeAt relation.name positions models
    let records ← load (taken.flatMap (·.2.records))
    (Model.putBack relation.name taken records models : Except Error (List Model))

/-- The positions of the models that a relation was loaded for. -/
def loadedPositions (name : String) (models : List Model) : List Nat :=
  (List.range models.length).filter fun i => models[i]?.any (·.isLoaded name)

/-- Loads relations onto the records that are already attached through a relation. -/
def loadInline (relation : Relation) (load : Loader σ) : Loader σ := fun models =>
  loadInlineAt relation load (loadedPositions relation.name models) models

/-- Reads the records that belong to some models through a relation, and attaches them to those
models for which the relation was not loaded. -/
def loadPending (conn : Connection σ) (relation : Relation) (load : Loader σ) : Loader σ :=
  fun models => do
    let pending := models.filter fun m => !m.isLoaded relation.name
    if pending.isEmpty then return models
    let candidates ← match relation.condition? pending with
      | some condition =>
        let q := (Query.of (conn.catalog.target relation)).filter condition
        pure (← conn.allWith load q).models
      | none => pure []
    return models.map fun m =>
      if m.isLoaded relation.name then m
      else m.attach relation.name (relation.pick candidates m)

mutual

/-- Loads a tree of relations onto records of a type. -/
def loadTree (conn : Connection σ) (s : Schema) : RelationTree → Loader σ
  | .node name nested => fun models => do
    let relation ← (s.relation? name : Except Error Relation)
    let load := loadForest conn (conn.catalog.target relation) nested
    let models ←
      if models.any (·.isLoaded relation.name) && !nested.isEmpty then
        loadInline relation load models
      else pure models
    conn.loadPending relation load models

/-- Loads some trees of relations onto records of a type, one after another. -/
def loadForest (conn : Connection σ) (s : Schema) : List RelationTree → Loader σ
  | [] => pure
  | tree :: rest => fun models => do
    let models ← loadTree conn s tree models
    loadForest conn s rest models

end

/-- Loads the relations that a query reads by further requests. -/
def loader (conn : Connection σ) (q : Query) : Loader σ :=
  match q.schema with
  | some s => conn.loadForest s (RelationTree.ofPaths q.eager)
  | none => pure

end Connection

end RestQuery
