import RestQuery.Model.Basic

/-!
# Record sets

The result of a query is a list of keyed records. A record put under a key that the set holds takes
the place of the one before, so the keys are distinct and stand in the order of their first use.

The place of each key is recorded beside the records, and a record is looked up by it. A set comes
with the proof that this index tells what a search among the keys would find, so it can not go
astray; `entries_insert` says what becomes of the entries.
-/

namespace RestQuery

/-- The key of a record in a result. -/
inductive RowKey where
  /-- The place of the record among those read. -/
  | index (n : Nat)
  /-- A text taken from the record. -/
  | named (name : String)
  deriving DecidableEq, Inhabited, Repr

/-- What is found by the keys of some entries is found among their keys. -/
theorem RowKey.findIdx?_entries (entries : List (RowKey × Model)) (key : RowKey) :
    entries.findIdx? (·.1 == key) = (entries.map Prod.fst).findIdx? (· == key) := by
  rw [List.findIdx?_map]
  rfl

/-- Keyed records in order, with an index of their places. -/
structure RecordSet where
  entries : List (RowKey × Model) := []
  /-- The keys, each with its place among the entries. -/
  places : List (RowKey × Nat) := []
  /-- The place that is recorded of a key is the one where it is found, and of a key that the set
  does not hold there is none. -/
  lookup_places : ∀ key, places.lookup key = entries.findIdx? (·.1 == key) := by exact fun _ => rfl

instance : Inhabited RecordSet := ⟨{}⟩

namespace RecordSet

/-- The set without records. -/
def empty : RecordSet := {}

/-- The place of a key among the entries. -/
def position? (s : RecordSet) (key : RowKey) : Option Nat :=
  s.places.lookup key

/-- The place of a key is the one where it is found. -/
theorem position?_eq (s : RecordSet) (key : RowKey) :
    s.position? key = s.entries.findIdx? (·.1 == key) := s.lookup_places key

/-- Entries keep their keys where a record is exchanged. -/
theorem map_fst_modify (entries : List (RowKey × Model)) (i : Nat) (m : Model) :
    (entries.modify i fun entry => (entry.1, m)).map Prod.fst = entries.map Prod.fst := by
  refine List.ext_getElem? fun j => ?_
  rw [List.getElem?_map, List.getElem?_map, List.getElem?_modify]
  cases entries[j]? with
  | none => rfl
  | some entry => by_cases hij : i = j <;> simp [hij]

/-- The set with another record at a place. -/
def replaceAt (s : RecordSet) (i : Nat) (m : Model) : RecordSet where
  entries := s.entries.modify i fun entry => (entry.1, m)
  places := s.places
  lookup_places key := by
    rw [s.lookup_places, RowKey.findIdx?_entries, RowKey.findIdx?_entries, map_fst_modify]

/-- The set with a record behind the others, under a key of its own. -/
def add (s : RecordSet) (key : RowKey) (m : Model) : RecordSet where
  entries := s.entries ++ [(key, m)]
  places := s.places ++ [(key, s.entries.length)]
  lookup_places key' := by
    rw [List.lookup_append, s.lookup_places, List.findIdx?_append]
    by_cases hkey : key' = key
    · subst hkey
      simp
    · simp [List.lookup_cons, beq_false_of_ne hkey, beq_false_of_ne (Ne.symm hkey)]

/-- The set with a record put under a key. -/
def insert (s : RecordSet) (key : RowKey) (m : Model) : RecordSet :=
  match s.position? key with
  | some i => s.replaceAt i m
  | none => s.add key m

/-- A record takes the place that its key has, or is put behind the others. -/
theorem entries_insert (s : RecordSet) (key : RowKey) (m : Model) :
    (s.insert key m).entries = match s.entries.findIdx? (·.1 == key) with
      | some i => s.entries.set i (key, m)
      | none => s.entries ++ [(key, m)] := by
  rw [insert, position?_eq]
  cases hplace : s.entries.findIdx? (·.1 == key) with
  | none => rfl
  | some i =>
    obtain ⟨hi, hkey, -⟩ := List.findIdx?_eq_some_iff_getElem.mp hplace
    show s.entries.modify i (fun entry => (entry.1, m)) = s.entries.set i (key, m)
    rw [List.modify_eq_take_cons_drop hi, List.set_eq_take_append_cons_drop, if_pos hi,
      eq_of_beq hkey]

/-- The set with some keyed records put in one by one. -/
def insertAll (s : RecordSet) (records : List (RowKey × Model)) : RecordSet :=
  records.foldl (fun acc entry => acc.insert entry.1 entry.2) s

/-- The number of records. -/
def size (s : RecordSet) : Nat := s.entries.length

/-- Whether there is no record. -/
def isEmpty (s : RecordSet) : Bool := s.entries.isEmpty

/-- The record under a key. -/
def get? (s : RecordSet) (key : RowKey) : Option Model := do
  let i ← s.position? key
  let entry ← s.entries[i]?
  return entry.2

/-- The record under a text. -/
def getNamed? (s : RecordSet) (name : String) : Option Model := s.get? (.named name)

/-- The keys, in order. -/
def keys (s : RecordSet) : List RowKey := s.entries.map Prod.fst

/-- The records, in order. -/
def models (s : RecordSet) : List Model := s.entries.map Prod.snd

/-- The first record. -/
def first? (s : RecordSet) : Option Model := s.models.head?

end RecordSet

end RestQuery
