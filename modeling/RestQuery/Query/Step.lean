import RestQuery.Query.Joins

/-!
# Queries step by step

A query can be given as a list of steps, each of which is one of the functions on queries. The step
`joinNested` holds the steps of the query on the related records. Only `prepare` can fail.
-/

namespace RestQuery

/-- One step in building a query. -/
inductive Query.Step where
  | from (source : String)
  | select (fields : List String)
  | addSelect (fields : List String)
  | filter (c : Condition)
  | andFilter (c : Condition)
  | orFilter (c : Condition)
  | whereEq (field : String) (value : Json)
  | whereCompare (op : Comparison) (field : String) (value : Json)
  | whereIn (field : String) (values : List Json)
  | whereLike (field : String) (pattern : Json)
  | orderBy (field : String) (direction : Direction)
  | limit (n : Nat)
  | offset (n : Nat)
  | perPage (n : Nat)
  | indexBy (i : Index)
  | action (a : Action)
  | addAction (a : Action)
  | param (name : String) (value : Json)
  | params (table : Parameters)
  | join (kind : String) (targets : List String)
  | joinWith (paths : List String)
  | joinNested (path : String) (steps : List Query.Step)
  | eager (paths : List String)
  | prepare

namespace Query

mutual

/-- The query after one step. -/
def apply (g : Catalog) (q : Query) : Step → Except Error Query
  | .from source => .ok (q.from source)
  | .select fields => .ok (q.selecting fields)
  | .addSelect fields => .ok (q.addSelect fields)
  | .filter c => .ok (q.filter c)
  | .andFilter c => .ok (q.andFilter c)
  | .orFilter c => .ok (q.orFilter c)
  | .whereEq field value => .ok (q.whereEq field value)
  | .whereCompare op field value => .ok (q.whereCompare op field value)
  | .whereIn field values => .ok (q.whereIn field values)
  | .whereLike field pattern => .ok (q.whereLike field pattern)
  | .orderBy field direction => .ok (q.orderBy field direction)
  | .limit n => .ok (q.limitTo n)
  | .offset n => .ok (q.startAt n)
  | .perPage n => .ok (q.pageSize n)
  | .indexBy i => .ok (q.indexBy i)
  | .action a => .ok (q.acting a)
  | .addAction a => .ok (q.addAction a)
  | .param name value => .ok (q.param name value)
  | .params table => .ok (q.addParams table)
  | .join kind targets => .ok (q.join kind targets)
  | .joinWith paths => .ok (q.joinWith paths)
  | .joinNested path steps => .ok (q.joinNested path fun s => do
      (← applyAll g (Query.of s) steps).mergedJoins g)
  | .eager paths => .ok (q.withRelations paths)
  | .prepare => q.prepare g

/-- The query after some steps, or the error of the first that fails. -/
def applyAll (g : Catalog) (q : Query) : List Step → Except Error Query
  | [] => .ok q
  | step :: rest => do
    let q ← apply g q step
    applyAll g q rest

end

end Query

end RestQuery
