import RestQuery.Query.Basic
import RestQuery.Text.Cut

/-!
# Resolving joins

A path of relations is followed from type to type. It asks for each relation on the way, and at its
end for what the query on the related records joins in turn. `Query.prepare` resolves all pending
paths. The resolved joins come first, then the explicit ones, and a target that was asked for before
is left out.
-/

namespace RestQuery

/-- Keeps, of the paths that a list of joins asks for, the first of each. `seen` holds those asked
for before. -/
def freshTargets (seen : List String) : List String → List String
  | [] => []
  | target :: rest =>
    if target ∈ seen then freshTargets seen rest
    else target :: freshTargets (seen ++ [target]) rest

/-- The joins with the resolved targets of pending ones, without repetitions. -/
def mergeResolved (seen : List String) : List Join → List Join
  | [] => []
  | join :: rest =>
    let targets := freshTargets seen join.targets
    if targets.isEmpty then mergeResolved seen rest
    else ⟨join.kind, targets⟩ :: mergeResolved (seen ++ targets) rest

/-- The explicit joins without the targets that other joins ask for. -/
def mergeExplicit (seen : List String) : List Join → List Join
  | [] => []
  | join :: rest =>
    let targets := join.targets.filter (· ∉ seen)
    if targets.isEmpty then mergeExplicit seen rest
    else ⟨join.kind, targets⟩ :: mergeExplicit (seen ++ targets) rest

/-- The targets of some joins, in order. -/
def allTargets (joins : List Join) : List String := joins.flatMap Join.targets

namespace PendingPath

/-- The name of a relation in a segment of a path, without an alias. -/
def relationName (segment : String) : String := (Text.firstWord? segment).getD segment

/-- The targets of a path given by its segments: each relation on the way under the names of those
before it, then what is joined at its end. -/
def resolveSegments (g : Catalog) (nested : Schema → Except Error (List Join)) (s : Schema) :
    List String → Except Error (List String)
  | [] => .ok []
  | [segment] => do
    let relation ← s.relation? (relationName segment)
    let joins ← nested (g.target relation)
    return segment :: (joins.flatMap Join.names).map (relationName segment ++ "." ++ ·)
  | segment :: rest => do
    let relation ← s.relation? (relationName segment)
    let targets ← resolveSegments g nested (g.target relation) rest
    let names := (Join.mk Query.relationKind (freshTargets [] targets)).names
    return segment :: names.map (relationName segment ++ "." ++ ·)

/-- The targets of a path from a type. Without a type no relation is known. -/
def resolve (g : Catalog) (q : Query) (p : PendingPath) : Except Error (List String) :=
  let segments := Text.pieces '.' p.path
  match q.schema with
  | some s => resolveSegments g p.nested s segments
  | none => .error (.unknownRelation q.resourceName (relationName (segments.headD "")))

end PendingPath

namespace Query

/-- The joins that the pending paths stand for, as they were asked for. -/
def resolvedJoins (g : Catalog) (q : Query) : Except Error (List Join) :=
  q.pending.mapM fun pending => do
    let targets ← pending.paths.mapM (PendingPath.resolve g q)
    return ⟨pending.kind, targets.flatten⟩

/-- The joins that the query has once it is prepared. -/
def mergedJoins (g : Catalog) (q : Query) : Except Error (List Join) := do
  let resolved ← q.resolvedJoins g
  let merged := mergeResolved [] resolved
  return merged ++ mergeExplicit (allTargets merged) q.joins

/-- The query with its pending paths resolved. A query without any stays as it is. -/
def prepare (g : Catalog) (q : Query) : Except Error Query :=
  if q.pending.isEmpty then .ok q
  else (q.mergedJoins g).map fun joins => { q with joins := joins, pending := [] }

/-- Prepares the query at hand. It is changed only after all of its paths are resolved. -/
def prepareInPlace (g : Catalog) : ExceptT Error (StateM Query) Unit := do
  let q ← get
  if q.pending.isEmpty then return
  let joins ← (q.mergedJoins g : Except Error (List Join))
  set { q with joins := joins, pending := [] }

end Query

end RestQuery
