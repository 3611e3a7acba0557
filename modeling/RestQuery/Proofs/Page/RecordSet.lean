import RestQuery.Page.Cursor

/-!
# Records keyed by their places

A cursor over a query that asks for no keys of its own numbers its records (`labelAll_eq`). Put into
a set one after another, they stand in order and each under its place (`insertAll_numbered`).
-/

namespace RestQuery

/-- Some records, numbered from a given number on. -/
def numberFrom (start : Nat) (models : List Model) : List (RowKey × Model) :=
  models.mapIdx fun i m => (.index (start + i), m)

/-- Numbering the first record and then the others. -/
theorem numberFrom_cons (start : Nat) (m : Model) (rest : List Model) :
    numberFrom start (m :: rest) = (.index start, m) :: numberFrom (start + 1) rest := by
  simp only [numberFrom, List.mapIdx_cons, Nat.add_zero, Nat.add_comm 1, Nat.add_assoc]

/-- Numbering some records and then one more. -/
theorem numberFrom_concat (start : Nat) (models : List Model) (m : Model) :
    numberFrom start (models ++ [m]) =
      numberFrom start models ++ [(.index (start + models.length), m)] := by
  rw [numberFrom, List.mapIdx_concat]
  rfl

namespace RecordSet

/-- The set of some entries. -/
def ofEntries (entries : List (RowKey × Model)) : RecordSet where
  entries := entries
  places := (entries.map Prod.fst).zipIdx
  lookup_places key := by
    have hlookup : ∀ (keys : List RowKey) (start : Nat),
        (keys.zipIdx start).lookup key = (keys.findIdx? (· == key)).map (· + start) := by
      intro keys
      induction keys with
      | nil => exact fun _ => rfl
      | cons first rest ih =>
        intro start
        rw [List.zipIdx_cons, List.lookup_cons, List.findIdx?_cons, ih]
        by_cases hkey : key = first
        · simp [hkey]
        · rw [beq_false_of_ne hkey, beq_false_of_ne (Ne.symm hkey), if_neg Bool.false_ne_true,
            Option.map_map]
          exact congrArg (Option.map · _) (funext fun i => by simp; omega)
    rw [RowKey.findIdx?_entries, hlookup]
    exact Option.map_id'

/-- The set of some records under their places. -/
def numbered (models : List Model) : RecordSet := ofEntries (numberFrom 0 models)

/-- The records of a set that is numbered. -/
@[simp] theorem models_numbered (models : List Model) : (numbered models).models = models := by
  have hfrom : ∀ start, (numberFrom start models).map Prod.snd = models := by
    induction models with
    | nil => exact fun _ => rfl
    | cons m rest ih =>
      intro start
      rw [numberFrom_cons, List.map_cons, ih]
  exact hfrom 0

/-- A record put under the number of the records is added behind them. -/
theorem insert_numbered (models : List Model) (m : Model) :
    (numbered models).insert (.index models.length) m = numbered (models ++ [m]) := by
  have hfree : (numbered models).position? (.index models.length) = none := by
    rw [position?_eq, List.findIdx?_eq_none_iff]
    intro entry hentry
    obtain ⟨i, hi, rfl⟩ := List.mem_mapIdx.mp hentry
    simp only [Nat.zero_add, beq_eq_false_iff_ne, ne_eq, RowKey.index.injEq]
    omega
  have hsize : (numberFrom 0 models).length = models.length := List.length_mapIdx
  rw [insert, hfree]
  simp only [add, numbered, ofEntries, numberFrom_concat, List.map_append, List.zipIdx_append,
    List.length_map, hsize, Nat.zero_add, List.map_cons, List.map_nil, List.zipIdx_singleton]

/-- Records that are numbered on are added in order. -/
theorem insertAll_numbered (models more : List Model) :
    (numbered models).insertAll (numberFrom models.length more) = numbered (models ++ more) := by
  induction more generalizing models with
  | nil => rw [List.append_nil]; rfl
  | cons m rest ih =>
    have hrest := ih (models ++ [m])
    rw [List.length_append, List.length_singleton, List.append_assoc,
      List.singleton_append] at hrest
    rw [numberFrom_cons, ← hrest, ← insert_numbered]
    rfl

/-- The records behind some first ones, numbered on, are added to these. -/
theorem insertAll_stretch {models : List Model} {start : Nat} (h : start ≤ models.length)
    (count : Nat) :
    (numbered (models.take start)).insertAll (numberFrom start ((models.drop start).take count)) =
      numbered (models.take (start + count)) := by
  have hstart := insertAll_numbered (models.take start) ((models.drop start).take count)
  rwa [List.length_take_of_le h, ← List.take_add] at hstart

end RecordSet

/-- A cursor numbers the records of a query that asks for no other keys. -/
theorem Cursor.labelAll_eq {c : Cursor} (hindex : c.query.index = none) (models : List Model) :
    c.labelAll models =
      ({ c with nextIndex := c.nextIndex + models.length }, numberFrom c.nextIndex models) := by
  induction models generalizing c with
  | nil => rfl
  | cons m rest ih =>
    have hlabel : c.label m = ({ c with nextIndex := c.nextIndex + 1 }, .index c.nextIndex) := by
      rw [label, hindex]
    rw [labelAll, hlabel]
    dsimp only
    rw [ih (c := { c with nextIndex := c.nextIndex + 1 }) hindex, numberFrom_cons]
    simp only [List.length_cons, Nat.add_assoc, Nat.add_comm 1]

/-- A cursor keys the records of a query by what it asks for. -/
theorem Cursor.labelAll_of_index {c : Cursor} {i : Index} (hindex : c.query.index = some i)
    (models : List Model) :
    c.labelAll models = (c, models.map fun m => (.named (i.key m), m)) := by
  induction models with
  | nil => rfl
  | cons m rest ih =>
    have hlabel : c.label m = (c, .named (i.key m)) := by rw [label, hindex]
    rw [labelAll, hlabel]
    dsimp only
    rw [ih, List.map_cons]

end RestQuery
