import RestQuery.Filter.Compile
import RestQuery.Model.Basic

/-!
# Queries

A query describes which records to read and how: a resource or a type, fields, a condition, an
order, a window, and relations. A query is a value: each function here returns another one.

Relations come in two ways. Joins ask the server to expand related records inline; they are either
explicit directives or pending paths, which `Query.prepare` resolves. The relations in `eager` are
read by further requests.
-/

namespace RestQuery

/-- What a request does to a resource. -/
inductive Action where
  | get
  | view
  | count
  | exists
  | insert
  | update
  | delete
  deriving DecidableEq, Repr

/-- The name of an action. -/
def Action.name : Action → String
  | get => "get"
  | view => "view"
  | count => "count"
  | «exists» => "exists"
  | insert => "insert"
  | update => "update"
  | delete => "delete"

/-- The action of a name. -/
def Action.ofName? (name : String) : Option Action :=
  [get, view, count, .exists, insert, update, delete].find? (·.name == name)

/-- The direction of an order. -/
inductive Direction where
  | ascending
  | descending
  deriving DecidableEq, Inhabited, Repr

/-- By what the rows of a result are keyed. -/
inductive Index where
  /-- By the text of an attribute. -/
  | field (name : String)
  | function (key : Model → String)

/-- The key of a record. A missing attribute keys as the empty text. -/
def Index.key (i : Index) (m : Model) : String :=
  match i with
  | .field name => ((KeyMap.get? m.attributes name).map Json.keyText).getD ""
  | .function key => key m

/-- Relations that the server is asked to expand inline. -/
structure Join where
  kind : String
  /-- The paths of the relations, each perhaps followed by an alias. -/
  targets : List String
  deriving DecidableEq, Repr

/-- The paths by which the server is asked, without aliases. -/
def Join.names (j : Join) : List String := j.targets.filterMap Text.firstWord?

/-- A path of relations to expand that is not resolved yet. -/
structure PendingPath where
  /-- The names of the relations, separated by points. -/
  path : String
  /-- What the query on the last of the related types joins in turn. -/
  nested : Schema → Except Error (List Join)

/-- Paths of relations to expand that were asked for together. -/
structure PendingJoin where
  kind : String
  paths : List PendingPath

/-- A description of what to read. -/
structure Query where
  schema : Option Schema := none
  select : List String := []
  condition : Option Condition := none
  joins : List Join := []
  pending : List PendingJoin := []
  /-- The relations to read by further requests, as paths. -/
  eager : List String := []
  order : List (String × Direction) := []
  limit : Option Nat := none
  offset : Option Nat := none
  perPage : Option Nat := none
  source : Option String := none
  action : Option Action := none
  index : Option Index := none
  params : Parameters := []

namespace Query

/-- The query for the records of a type. -/
def of (s : Schema) : Query := { schema := some s }

/-- The path of the resource: the one set, else that of the type. -/
def resource? (q : Query) : Option String :=
  match q.source with
  | some source => some source
  | none => q.schema.map Schema.resourcePath

/-- The path of the resource in messages, where none reads as empty. -/
def resourceName (q : Query) : String := q.resource?.getD ""

/-- Reads from a resource. -/
def «from» (q : Query) (source : String) : Query := { q with source := some source }

/-- Asks for some fields only. -/
def selecting (q : Query) (fields : List String) : Query := { q with select := fields }

/-- Adds to a list what it does not hold yet. -/
def addNew (held : List String) (names : List String) : List String :=
  names.foldl (fun acc name => if acc.contains name then acc else acc ++ [name]) held

/-- Asks for some more fields. -/
def addSelect (q : Query) (fields : List String) : Query :=
  { q with select := addNew q.select fields }

/-- Sets the condition, in place of an older one. -/
def filter (q : Query) (c : Condition) : Query := { q with condition := some c }

/-- Joins a further condition to the one so far. Conditions that are already joined by the same
connective take it as one more. -/
def combine (q : Query) (connective : Connective) (c : Condition) : Query :=
  let combined := match q.condition with
    | none => c
    | some (.joined existing operands) =>
      if existing = connective then .joined connective (operands ++ [c])
      else .joined connective [.joined existing operands, c]
    | some current => .joined connective [current, c]
  { q with condition := some combined }

/-- Requires a further condition. -/
def andFilter (q : Query) (c : Condition) : Query := q.combine .and c

/-- Admits a further condition. -/
def orFilter (q : Query) (c : Condition) : Query := q.combine .or c

/-- Requires a field to equal a value, or to be one of the items of a list. -/
def whereEq (q : Query) (field : String) (value : Json) : Query :=
  q.andFilter (.equals field value)

/-- Requires a field to compare with a value. -/
def whereCompare (q : Query) (op : Comparison) (field : String) (value : Json) : Query :=
  q.andFilter (.compare op field value)

/-- Requires a field to be one of some values. -/
def whereIn (q : Query) (field : String) (values : List Json) : Query :=
  q.andFilter (.oneOf field values)

/-- Requires a field to match a pattern. -/
def whereLike (q : Query) (field : String) (pattern : Json) : Query :=
  q.andFilter (.matching field pattern)

/-- Orders by a field, after the fields so far. A field that was among them moves to the end. -/
def orderBy (q : Query) (field : String) (direction : Direction) : Query :=
  { q with order := q.order.filter (·.1 != field) ++ [(field, direction)] }

/-- Bounds the number of records. -/
def limitTo (q : Query) (n : Nat) : Query := { q with limit := some n }

/-- Skips some records. -/
def startAt (q : Query) (n : Nat) : Query := { q with offset := some n }

/-- Sets the page size that is asked of the server. -/
def pageSize (q : Query) (n : Nat) : Query := { q with perPage := some n }

/-- Keys the records. -/
def indexBy (q : Query) (i : Index) : Query := { q with index := some i }

/-- Sets the action. -/
def acting (q : Query) (a : Action) : Query := { q with action := some a }

/-- Sets the action if none is set. -/
def addAction (q : Query) (a : Action) : Query := { q with action := some (q.action.getD a) }

/-- Sets a parameter. -/
def param (q : Query) (name : String) (value : Json) : Query :=
  { q with params := KeyMap.insert q.params name value }

/-- Sets some parameters. -/
def addParams (q : Query) (params : Parameters) : Query :=
  { q with params := q.params.overlay params }

/-- Asks for relations by an explicit directive. -/
def join (q : Query) (kind : String) (targets : List String) : Query :=
  { q with joins := q.joins ++ [⟨kind, targets⟩] }

/-- The kind of the joins that relations are resolved to. -/
def relationKind : String := "LEFT JOIN"

/-- Asks for relations by their paths. -/
def joinWith (q : Query) (paths : List String) : Query :=
  { q with pending := q.pending ++ [⟨relationKind, paths.map fun path => ⟨path, fun _ => .ok []⟩⟩] }

/-- Asks for a relation by its path, and for what the query on the related records joins. -/
def joinNested (q : Query) (path : String) (nested : Schema → Except Error (List Join)) : Query :=
  { q with pending := q.pending ++ [⟨relationKind, [⟨path, nested⟩]⟩] }

/-- Reads relations by further requests. -/
def withRelations (q : Query) (paths : List String) : Query :=
  { q with eager := addNew q.eager paths }

end Query

end RestQuery
