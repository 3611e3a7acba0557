import Mathlib.Data.Finset.Card
import Mathlib.Data.List.Induction
import RestQuery.Page.RecordSet

/-!
# Records put in one after another

A set that was empty is an ordered map of what was put into it (`RecordSet.mapOf_insertAll`): a key
stands where it was used first, and under it the record that was put in last. The index has the
place of every entry and no other, so that each look-up finds its record.

What one insertion does to the keys, to the index and to a look-up is said by `keys_insert`,
`places_insert` and `get?_insert`. The last one rests on the index: the place that is recorded of
another key is another place.
-/

namespace RestQuery

namespace RecordSet

variable {s : RecordSet} {key : RowKey}

/-! ## One insertion -/

/-- A key has a place if the set holds it. -/
theorem position?_eq_none_iff : s.position? key = none ↔ key ∉ s.keys := by
  rw [position?_eq, RowKey.findIdx?_entries, List.findIdx?_eq_none_iff, keys]
  simp only [beq_eq_false_iff_ne, ne_eq]
  exact ⟨fun h hmem => h key hmem rfl, fun h other hmem heq => h (heq ▸ hmem)⟩

/-- At its place, a key is found. -/
theorem getElem?_keys_of_position? {i : Nat} (h : s.position? key = some i) :
    s.keys[i]? = some key := by
  rw [position?_eq, RowKey.findIdx?_entries, List.findIdx?_eq_some_iff_getElem] at h
  obtain ⟨hi, hkey, -⟩ := h
  rw [keys, List.getElem?_eq_getElem hi, eq_of_beq hkey]

/-- A key that is new to the set becomes its last. -/
theorem keys_insert (s : RecordSet) (key : RowKey) (m : Model) :
    (s.insert key m).keys = if key ∈ s.keys then s.keys else s.keys ++ [key] := by
  rw [insert]
  cases hplace : s.position? key with
  | none =>
    rw [if_neg (position?_eq_none_iff.mp hplace)]
    exact List.map_append
  | some i =>
    rw [if_pos (List.mem_of_getElem? (getElem?_keys_of_position? hplace))]
    exact map_fst_modify s.entries i m

/-- The index of the keys in order is one of the keys in order after an insertion. -/
theorem places_insert (h : s.places = s.keys.zipIdx) (key : RowKey) (m : Model) :
    (s.insert key m).places = (s.insert key m).keys.zipIdx := by
  rw [keys_insert, insert]
  cases hplace : s.position? key with
  | none =>
    rw [if_neg (position?_eq_none_iff.mp hplace), List.zipIdx_append, ← h, Nat.zero_add]
    show s.places ++ [(key, s.entries.length)] = s.places ++ [(key, (s.entries.map _).length)]
    rw [List.length_map]
  | some i =>
    rw [if_pos (List.mem_of_getElem? (getElem?_keys_of_position? hplace)), ← h]
    rfl

/-- A record is looked up at the place that is recorded of its key. -/
theorem get?_eq (s : RecordSet) (key : RowKey) :
    s.get? key = (s.position? key).bind fun i => s.entries[i]?.map Prod.snd := by
  rw [get?]
  cases s.position? key with
  | none => rfl
  | some i => cases hentry : s.entries[i]? <;> simp [hentry]

/-- Behind the others, a record is found under its key, which is new. -/
theorem get?_add (h : s.position? key = none) (m : Model) (other : RowKey) :
    (s.add key m).get? other = if other = key then some m else s.get? other := by
  have hplace : (s.add key m).position? other =
      (s.position? other).or (if other = key then some s.entries.length else none) := by
    show (s.places ++ [(key, s.entries.length)]).lookup other = _
    rw [List.lookup_append, List.lookup_cons]
    by_cases hkey : other = key
    · rw [if_pos hkey, hkey, beq_self_eq_true]
      rfl
    · rw [if_neg hkey, beq_false_of_ne hkey]
      rfl
  rw [get?_eq, get?_eq, hplace]
  by_cases hkey : other = key
  · rw [if_pos hkey, if_pos hkey, hkey, h, Option.none_or, Option.bind_some]
    show ((s.entries ++ [(key, m)])[s.entries.length]?).map Prod.snd = some m
    rw [List.getElem?_concat_length]
    rfl
  · rw [if_neg hkey, if_neg hkey, Option.or_none]
    refine Option.bind_congr fun i hi => ?_
    -- A place that is recorded is one of an entry, so it is in front of the new one.
    have hwithin : i < s.keys.length :=
      (List.getElem?_eq_some_iff.mp (getElem?_keys_of_position? hi)).1
    rw [keys, List.length_map] at hwithin
    show ((s.entries ++ [(key, m)])[i]?).map Prod.snd = _
    rw [List.getElem?_append_left hwithin]

/-- At the place of its key, a record is exchanged under this key only. -/
theorem get?_replaceAt {i : Nat} (h : s.position? key = some i) (m : Model) (other : RowKey) :
    (s.replaceAt i m).get? other = if other = key then some m else s.get? other := by
  have hkey := getElem?_keys_of_position? h
  rw [get?_eq, get?_eq]
  show (s.position? other).bind (fun j => ((s.entries.modify i _)[j]?).map Prod.snd) = _
  by_cases hsame : other = key
  · rw [keys, List.getElem?_map, Option.map_eq_some_iff] at hkey
    obtain ⟨entry, hentry, -⟩ := hkey
    rw [if_pos hsame, hsame, h, Option.bind_some, List.getElem?_modify, hentry]
    simp
  · rw [if_neg hsame]
    refine Option.bind_congr fun j hj => ?_
    -- Two keys have two places.
    have hother : i ≠ j := by
      rintro rfl
      rw [getElem?_keys_of_position? hj] at hkey
      exact hsame (Option.some.inj hkey)
    rw [List.getElem?_modify]
    simp [hother]

/-- Under the key is the record that was put in, and under every other key what was there. -/
theorem get?_insert (s : RecordSet) (key : RowKey) (m : Model) (other : RowKey) :
    (s.insert key m).get? other = if other = key then some m else s.get? other := by
  rw [insert]
  cases hplace : s.position? key with
  | none => exact get?_add hplace m other
  | some i => exact get?_replaceAt hplace m other

/-! ## All insertions -/

/-- Whether a set is the ordered map that some insertions make, one after another. -/
structure MapOf (records : List (RowKey × Model)) (s : RecordSet) : Prop where
  /-- The keys stand in the order in which they were used first. -/
  keys_eq : s.keys = (records.map Prod.fst).eraseDups
  nodup_keys : s.keys.Nodup
  /-- The record under a key is the one that was put in last. -/
  get?_eq : ∀ key, s.get? key = records.reverse.lookup key
  /-- The places that are recorded are those of the entries with the keys. -/
  mem_places : ∀ key i, (key, i) ∈ s.places ↔ ∃ m, s.entries[i]? = some (key, m)
  nodup_places : (s.places.map Prod.fst).Nodup
  /-- There are as many records as keys that were used. -/
  size_eq : s.size = (records.map Prod.fst).toFinset.card
  /-- Entries, keys and records are listed in one order. -/
  entries_eq : s.entries = s.keys.zip s.models
  models_eq : s.models.map some = s.keys.map s.get?

/-- A record that is put in last is put into the set of the others. -/
theorem insertAll_concat (s : RecordSet) (records : List (RowKey × Model))
    (entry : RowKey × Model) :
    s.insertAll (records ++ [entry]) = (s.insertAll records).insert entry.1 entry.2 := by
  rw [insertAll, List.foldl_append]
  rfl

/-- The keys of a set that was empty are those of the records, each where it was used first. -/
theorem keys_insertAll (records : List (RowKey × Model)) :
    (empty.insertAll records).keys = (records.map Prod.fst).eraseDups := by
  induction records using List.reverseRecOn with
  | nil => rfl
  | append_singleton records entry ih =>
    rw [insertAll_concat, keys_insert, ih, List.map_append, List.map_singleton,
      List.eraseDups_append]
    by_cases hkey : entry.1 ∈ records.map Prod.fst
    · rw [if_pos (List.mem_eraseDups.mpr hkey)]
      simp [List.removeAll, hkey]
    · rw [if_neg (mt List.mem_eraseDups.mp hkey)]
      simp [List.removeAll, hkey, List.eraseDups_cons]

/-- No key stands twice in a set that was empty. -/
theorem nodup_keys_insertAll (records : List (RowKey × Model)) :
    (empty.insertAll records).keys.Nodup := by
  induction records using List.reverseRecOn with
  | nil => exact List.nodup_nil
  | append_singleton records entry ih =>
    rw [insertAll_concat, keys_insert]
    split
    · exact ih
    · rename_i hkey
      exact List.nodup_append.mpr ⟨ih, List.nodup_singleton _, by
        intro key hmem other hother
        rw [List.mem_singleton.mp hother]
        exact fun heq => hkey (heq ▸ hmem)⟩

/-- A set that was empty is looked up for the records that were put in last. -/
theorem get?_insertAll (records : List (RowKey × Model)) (key : RowKey) :
    (empty.insertAll records).get? key = records.reverse.lookup key := by
  induction records using List.reverseRecOn with
  | nil => rfl
  | append_singleton records entry ih =>
    rw [insertAll_concat, get?_insert, ih, List.reverse_concat, List.lookup_cons]
    by_cases hkey : key = entry.1
    · rw [if_pos hkey, hkey, beq_self_eq_true]
    · rw [if_neg hkey, beq_false_of_ne hkey]

/-- The index of a set that was empty is that of the keys in order. -/
theorem places_insertAll (records : List (RowKey × Model)) :
    (empty.insertAll records).places = (empty.insertAll records).keys.zipIdx := by
  induction records using List.reverseRecOn with
  | nil => rfl
  | append_singleton records entry ih =>
    rw [insertAll_concat]
    exact places_insert ih entry.1 entry.2

/-- Where no key stands twice, a record is found under its key. -/
theorem get?_of_mem (h : s.keys.Nodup) {m : Model} (hmem : (key, m) ∈ s.entries) :
    s.get? key = some m := by
  obtain ⟨i, hi⟩ := List.mem_iff_getElem?.mp hmem
  have hkey : s.keys[i]? = some key := by
    rw [keys, List.getElem?_map, hi]
    rfl
  obtain ⟨j, hj⟩ : ∃ j, s.position? key = some j :=
    Option.ne_none_iff_exists'.mp fun hnone =>
      position?_eq_none_iff.mp hnone (List.mem_of_getElem? hkey)
  have hplace : i = j := by
    obtain ⟨hlt, hget⟩ := List.getElem?_eq_some_iff.mp hkey
    obtain ⟨hlt', hget'⟩ := List.getElem?_eq_some_iff.mp (getElem?_keys_of_position? hj)
    exact (h.getElem_inj_iff).mp (hget.trans hget'.symm)
  rw [RecordSet.get?_eq, hj, Option.bind_some, ← hplace, hi]
  rfl

/-- A set that was empty is the ordered map of the records that were put into it: its keys are
distinct and stand in the order of their first use, under each is the record put in last, and what
is recorded of places is right. -/
theorem mapOf_insertAll (records : List (RowKey × Model)) :
    (empty.insertAll records).MapOf records where
  keys_eq := keys_insertAll records
  nodup_keys := nodup_keys_insertAll records
  get?_eq := get?_insertAll records
  mem_places key i := by
    rw [places_insertAll, List.mem_zipIdx_iff_getElem?, keys, List.getElem?_map,
      Option.map_eq_some_iff]
    constructor
    · rintro ⟨entry, hentry, rfl⟩
      exact ⟨entry.2, hentry⟩
    · rintro ⟨m, hentry⟩
      exact ⟨(key, m), hentry, rfl⟩
  nodup_places := by
    rw [places_insertAll, List.zipIdx_map_fst]
    exact nodup_keys_insertAll records
  size_eq := by
    have hkeys : (empty.insertAll records).keys.toFinset = (records.map Prod.fst).toFinset := by
      ext key
      rw [List.mem_toFinset, List.mem_toFinset, keys_insertAll, List.mem_eraseDups]
    rw [← hkeys, List.toFinset_card_of_nodup (nodup_keys_insertAll records)]
    exact (List.length_map Prod.fst).symm
  entries_eq := List.zip_of_prod rfl rfl
  models_eq := by
    rw [models, keys, List.map_map, List.map_map]
    exact List.map_congr_left fun entry hentry =>
      (get?_of_mem (nodup_keys_insertAll records) hentry).symm

end RecordSet

end RestQuery
