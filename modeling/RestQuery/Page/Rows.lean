import RestQuery.Connection.Command

/-!
# From rows to models

The rows of a response are read as models of the type that the query names. If the query joins
relations, a backend may repeat a record for each of its related ones: unless the result is keyed by
the records themselves, repetitions within one response are dropped.
-/

namespace RestQuery

namespace Model

/-- The text that tells records of one type apart. -/
def distinctKey (values : List Json) : String :=
  String.intercalate "\x1f" (values.map Json.keyText)

/-- The models up to the first without a complete key, each key once, and then all others. `seen`
holds the keys met before. -/
def dropRepeated (seen : List String) : List Model → List Model
  | [] => []
  | m :: rest =>
    match m.primaryKey? with
    | none => m :: rest
    | some values =>
      let key := distinctKey values
      if key ∈ seen then dropRepeated seen rest else m :: dropRepeated (key :: seen) rest

/-- The models without repetitions. A type without a primary key has no way to tell its records
apart. -/
def distinct (s : Schema) (models : List Model) : Except Error (List Model) :=
  if s.primaryKey.isEmpty then .error (.missingPrimaryKey s.typeName)
  else .ok (dropRepeated [] models)

end Model

namespace Query

/-- The type that a query reads, without which its rows cannot be read. -/
def schema? (q : Query) : Except Error Schema :=
  match q.schema with
  | some s => .ok s
  | none => .error (.configuration ("query on `" ++ q.resourceName ++ "` has no record schema"))

/-- Reads the rows of one response to a query. -/
def readRows (g : Catalog) (strict : Bool) (q : Query) (s : Schema) (rows : List Json) :
    Except Error (List Model) := do
  let models ← Model.ofRows? g strict s rows
  if !q.joins.isEmpty && q.index.isNone then Model.distinct s models else return models

end Query

end RestQuery
