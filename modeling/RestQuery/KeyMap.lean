/-!
# Maps from text keys

A finite map from texts is the list of its entries in increasing order of the keys, so that two
maps with the same entries are equal and every listing of a map is in key order. Texts are ordered
by code point, which is also the order of their UTF-8 bytes.

`get?` is the view of a map; `get?_insert`, `get?_erase` say what the operations do to it, for any
list of entries. `Ordered` says that the keys are increasing; `insert`, `erase` and `overlay` keep
it, and `ext` says that ordered maps with the same view are equal.
-/

namespace RestQuery

universe u v

/-- A finite map from texts, as the list of its entries in increasing order of the keys. -/
abbrev KeyMap (α : Type u) := List (String × α)

namespace KeyMap

variable {α : Type u} {β : Type v}

/-- The value under a key. -/
def get? : KeyMap α → String → Option α
  | [], _ => none
  | (k, v) :: rest, key => if k = key then some v else get? rest key

/-- Whether a key has a value. -/
def contains (m : KeyMap α) (key : String) : Bool :=
  (get? m key).isSome

/-- The map with a value put under a key, in place of an older one. -/
def insert : KeyMap α → String → α → KeyMap α
  | [], key, value => [(key, value)]
  | (k, v) :: rest, key, value =>
    if key < k then (key, value) :: (k, v) :: rest
    else if key = k then (key, value) :: rest
    else (k, v) :: insert rest key value

/-- The map without a key. -/
def erase (m : KeyMap α) (key : String) : KeyMap α :=
  m.filter fun entry => entry.1 != key

/-- The map with the entries of another put over its own. -/
def overlay (m later : KeyMap α) : KeyMap α :=
  later.foldl (fun acc entry => insert acc entry.1 entry.2) m

/-- The map with the given entries; of two with one key the later counts. -/
def ofEntries (entries : List (String × α)) : KeyMap α :=
  overlay [] entries

/-- The keys, in order. -/
def keys (m : KeyMap α) : List String :=
  m.map Prod.fst

/-- Whether the keys are increasing. -/
def Ordered (m : KeyMap α) : Prop :=
  (keys m).Pairwise (· < ·)

@[simp] theorem get?_nil (key : String) : get? ([] : KeyMap α) key = none := rfl

@[simp] theorem get?_cons (k key : String) (v : α) (rest : KeyMap α) :
    get? ((k, v) :: rest) key = if k = key then some v else get? rest key := rfl

/-- A key without a value is none of the keys. -/
theorem get?_eq_none_iff {m : KeyMap α} {key : String} : get? m key = none ↔ key ∉ keys m := by
  induction m with
  | nil => simp [keys]
  | cons entry rest ih =>
    obtain ⟨k, v⟩ := entry
    simp only [keys, get?_cons, List.map_cons, List.mem_cons, not_or] at ih ⊢
    split
    · rename_i hkey
      simp [hkey]
    · rename_i hne
      rw [ih]
      exact (and_iff_right (Ne.symm hne)).symm

theorem get?_insert (m : KeyMap α) (key key' : String) (value : α) :
    get? (insert m key value) key' = if key = key' then some value else get? m key' := by
  induction m with
  | nil => rfl
  | cons entry rest ih =>
    obtain ⟨k, v⟩ := entry
    simp only [insert]
    split
    · rfl
    · split
      · rename_i hkey
        subst hkey
        simp only [get?_cons]
        split <;> rfl
      · rename_i hne
        simp only [get?_cons, ih]
        by_cases hk : k = key'
        · subst hk
          simp [hne]
        · simp [hk]

theorem get?_erase (m : KeyMap α) (key key' : String) :
    get? (erase m key) key' = if key = key' then none else get? m key' := by
  induction m with
  | nil => simp [erase]
  | cons entry rest ih =>
    obtain ⟨k, v⟩ := entry
    by_cases hk : k = key
    · subst hk
      simp only [erase, List.filter, bne_self_eq_false] at ih ⊢
      rw [ih]
      by_cases hk' : k = key' <;> simp [hk']
    · have hbne : (k != key) = true := by simpa using hk
      simp only [erase, List.filter, hbne, get?_cons] at ih ⊢
      rw [ih]
      by_cases hk' : k = key'
      · subst hk'
        simp [Ne.symm hk]
      · simp [hk']

theorem keys_insert_subset (m : KeyMap α) (key : String) (value : α) :
    ∀ k ∈ keys (insert m key value), k = key ∨ k ∈ keys m := by
  induction m with
  | nil => simp [insert, keys]
  | cons entry rest ih =>
    obtain ⟨k, v⟩ := entry
    intro k' hk'
    simp only [insert] at hk'
    split at hk'
    · simpa [keys] using hk'
    · split at hk'
      · rename_i hkey
        subst hkey
        simp [keys] at hk' ⊢
        grind
      · simp only [keys, List.map_cons, List.mem_cons] at hk' ih ⊢
        rcases hk' with rfl | hk'
        · exact .inr (.inl rfl)
        · exact (ih k' hk').imp_right .inr

/-- A key that the map lacks only adds its entry. -/
theorem insert_perm {m : KeyMap α} {key : String} (h : key ∉ keys m) (value : α) :
    (insert m key value).Perm ((key, value) :: m) := by
  induction m with
  | nil => exact .refl _
  | cons entry rest ih =>
    obtain ⟨k, v⟩ := entry
    simp only [keys, List.map_cons, List.mem_cons, not_or] at h
    simp only [insert, if_neg h.1]
    split
    · exact .refl _
    · exact ((ih h.2).cons (k, v)).trans (.swap _ _ _)

theorem Ordered.insert {m : KeyMap α} (h : Ordered m) (key : String) (value : α) :
    Ordered (insert m key value) := by
  induction m with
  | nil => simp [KeyMap.insert, Ordered, keys]
  | cons entry rest ih =>
    obtain ⟨k, v⟩ := entry
    simp only [Ordered, keys, List.map_cons, List.pairwise_cons] at h
    simp only [KeyMap.insert]
    split
    · rename_i hlt
      simp only [Ordered, keys, List.map_cons, List.pairwise_cons, List.mem_cons]
      refine ⟨?_, h⟩
      rintro k' (rfl | hk')
      · exact hlt
      · exact String.lt_trans hlt (h.1 k' hk')
    · split
      · rename_i hkey
        subst hkey
        simpa only [Ordered, keys, List.map_cons, List.pairwise_cons] using h
      · rename_i hnlt hne
        simp only [Ordered, keys, List.map_cons, List.pairwise_cons]
        refine ⟨?_, ih h.2⟩
        intro k' hk'
        rcases keys_insert_subset rest key value k' hk' with rfl | hmem
        · exact Std.lt_of_le_of_ne (Std.not_lt.1 hnlt) (Ne.symm hne)
        · exact h.1 k' hmem

/-- Increasing keys are distinct. -/
theorem Ordered.nodup {m : KeyMap α} (h : Ordered m) : (keys m).Nodup := by
  refine List.Pairwise.imp (fun {k k'} hlt => ?_) h
  rintro rfl
  exact String.lt_irrefl k hlt

theorem Ordered.erase {m : KeyMap α} (h : Ordered m) (key : String) : Ordered (erase m key) := by
  simp only [Ordered, keys, KeyMap.erase] at h ⊢
  exact h.sublist (List.filter_sublist.map _)

theorem Ordered.overlay {m : KeyMap α} (h : Ordered m) (later : KeyMap α) :
    Ordered (overlay m later) := by
  induction later generalizing m with
  | nil => exact h
  | cons entry rest ih => exact ih (h.insert entry.1 entry.2)

theorem ordered_ofEntries (entries : List (String × α)) : Ordered (ofEntries entries) :=
  Ordered.overlay (m := []) .nil entries

/-- Entries under distinct keys that the map lacks are only added. -/
theorem overlay_perm {m later : KeyMap α} (h : (keys later ++ keys m).Nodup) :
    (overlay m later).Perm (later ++ m) := by
  induction later generalizing m with
  | nil => exact .refl _
  | cons entry rest ih =>
    obtain ⟨k, v⟩ := entry
    simp only [keys, List.map_cons, List.cons_append, List.nodup_cons, List.mem_append,
      not_or] at h
    have hins := insert_perm h.1.2 v
    have hkeys : (keys rest ++ keys (insert m k v)).Perm (k :: (keys rest ++ keys m)) :=
      ((hins.map Prod.fst).append_left _).trans List.perm_middle
    have hnodup : (keys rest ++ keys (insert m k v)).Nodup :=
      hkeys.nodup_iff.2 (List.nodup_cons.2 ⟨by simpa [keys] using h.1, h.2⟩)
    exact (ih hnodup).trans ((hins.append_left rest).trans List.perm_middle)

/-- The map of entries under distinct keys holds just these. -/
theorem ofEntries_perm {entries : List (String × α)} (h : (entries.map Prod.fst).Nodup) :
    (ofEntries entries).Perm entries := by
  have hnodup : (keys entries ++ keys ([] : KeyMap α)).Nodup := by simpa [keys] using h
  simpa [ofEntries] using overlay_perm hnodup

/-- What is found under a key is an entry of the map. -/
theorem mem_of_get? {m : KeyMap α} {key : String} {value : α} (h : get? m key = some value) :
    (key, value) ∈ m := by
  induction m with
  | nil => cases h
  | cons first rest ih =>
    obtain ⟨k, v⟩ := first
    rw [get?_cons] at h
    split at h
    · rename_i hkey
      rw [← hkey, ← Option.some.inj h]
      exact List.mem_cons_self
    · exact List.mem_cons_of_mem _ (ih h)

/-- In a map with distinct keys, each entry is found under its key. -/
theorem mem_iff_get? {m : KeyMap α} (h : (keys m).Nodup) {key : String}
    {value : α} : (key, value) ∈ m ↔ get? m key = some value := by
  refine ⟨fun hmem => ?_, mem_of_get?⟩
  induction m with
  | nil => cases hmem
  | cons entry rest ih =>
    obtain ⟨k, v⟩ := entry
    simp only [keys, List.map_cons, List.nodup_cons] at h
    rw [get?_cons]
    rcases List.mem_cons.mp hmem with hfirst | hrest
    · obtain ⟨rfl, rfl⟩ := Prod.mk.inj hfirst
      exact if_pos rfl
    · have hne : k ≠ key := by
        rintro rfl
        exact h.1 (List.mem_map_of_mem hrest)
      rw [if_neg hne]
      exact ih h.2 hrest

/-- What is in the map after an entry was put into it was there before, or is the entry. -/
theorem mem_of_mem_insert {m : KeyMap α} {key : String} {value : α} {entry : String × α}
    (h : entry ∈ insert m key value) : entry = (key, value) ∨ entry ∈ m := by
  induction m with
  | nil => exact .inl (List.mem_singleton.mp h)
  | cons first rest ih =>
    obtain ⟨k, v⟩ := first
    rw [insert] at h
    split at h
    · exact List.mem_cons.mp h
    · split at h
      · exact (List.mem_cons.mp h).imp_right (List.mem_cons_of_mem _)
      · rcases List.mem_cons.mp h with rfl | hrest
        · exact .inr List.mem_cons_self
        · exact (ih hrest).imp_right (List.mem_cons_of_mem _)

/-- What is in a map was there before others were put over it, or is one of these. -/
theorem mem_of_mem_overlay {m later : KeyMap α} {entry : String × α} (h : entry ∈ overlay m later) :
    entry ∈ m ∨ entry ∈ later := by
  induction later generalizing m with
  | nil => exact .inl h
  | cons first rest ih =>
    have hrest : entry ∈ insert m first.1 first.2 ∨ entry ∈ rest := ih h
    rcases hrest with hinsert | hrest
    · rcases mem_of_mem_insert hinsert with rfl | hm
      · exact .inr List.mem_cons_self
      · exact .inl hm
    · exact .inr (List.mem_cons_of_mem _ hrest)

/-- The map of some entries holds no others. -/
theorem mem_of_mem_ofEntries {entries : List (String × α)} {entry : String × α}
    (h : entry ∈ ofEntries entries) : entry ∈ entries :=
  (mem_of_mem_overlay h).resolve_left (List.not_mem_nil)

@[simp] theorem isEmpty_insert (m : KeyMap α) (key : String) (value : α) :
    (insert m key value).isEmpty = false := by
  cases m with
  | nil => rfl
  | cons entry rest =>
    simp only [insert]
    split
    · rfl
    · split <;> rfl

theorem isEmpty_overlay (m later : KeyMap α) :
    (overlay m later).isEmpty = (m.isEmpty && later.isEmpty) := by
  induction later generalizing m with
  | nil => simp [overlay]
  | cons entry rest ih => simpa [overlay] using ih (insert m entry.1 entry.2)

@[simp] theorem isEmpty_ofEntries (entries : List (String × α)) :
    (ofEntries entries).isEmpty = entries.isEmpty := isEmpty_overlay [] entries

theorem get?_eq_none_of_lt {m : KeyMap α} {key : String} (h : ∀ k ∈ keys m, key < k) :
    get? m key = none := by
  induction m with
  | nil => rfl
  | cons entry rest ih =>
    obtain ⟨k, v⟩ := entry
    simp only [keys, List.map_cons, List.mem_cons, forall_eq_or_imp] at h
    have hne : k ≠ key := fun hk => String.lt_irrefl key (hk ▸ h.1)
    simp only [get?_cons, hne, if_false]
    exact ih h.2

/-- A value put over a map with distinct keys is found first, and else what the map holds. -/
theorem get?_overlay {m later : KeyMap α} (h : (keys later).Nodup) (key : String) :
    get? (overlay m later) key = (get? later key).or (get? m key) := by
  induction later generalizing m with
  | nil => rfl
  | cons entry rest ih =>
    obtain ⟨k, v⟩ := entry
    simp only [keys, List.map_cons, List.nodup_cons] at h
    have hrest : get? (overlay (insert m k v) rest) key =
        (get? rest key).or (get? (insert m k v) key) := ih h.2
    show get? (overlay (insert m k v) rest) key = _
    rw [hrest, get?_insert, get?_cons]
    split
    · rename_i hkey
      have hnone : get? rest key = none := by
        rw [← hkey, get?_eq_none_iff]
        exact h.1
      rw [hnone]
      rfl
    · rfl

/-- Among entries under distinct keys, each is found under its key. -/
theorem get?_ofEntries {entries : List (String × α)} (h : (entries.map Prod.fst).Nodup)
    (key : String) : get? (ofEntries entries) key = get? entries key := by
  rw [ofEntries, get?_overlay h, get?_nil, Option.or_none]

/-- A value put over a map is found first, and else what the map holds. -/
theorem get?_overlay_entries (m later : KeyMap α) (key : String) :
    get? (overlay m later) key = (get? (ofEntries later) key).or (get? m key) := by
  induction later generalizing m with
  | nil => rfl
  | cons entry rest ih =>
    obtain ⟨k, v⟩ := entry
    have hover : get? (overlay m ((k, v) :: rest)) key =
        (get? (ofEntries rest) key).or (get? (insert m k v) key) := ih _
    have hentries : get? (ofEntries ((k, v) :: rest)) key =
        (get? (ofEntries rest) key).or (get? (insert [] k v) key) := ih _
    rw [hover, hentries, Option.or_assoc, get?_insert, get?_insert, get?_nil]
    split <;> rfl

/-- What is in the map of some entries behind others: their map, and of the map of the others what
is under no key of it. -/
theorem mem_ofEntries_append {entries later : List (String × α)} {entry : String × α} :
    entry ∈ ofEntries (entries ++ later) ↔
      entry ∈ ofEntries later ∨ entry ∈ ofEntries entries ∧ entry.1 ∉ keys (ofEntries later) := by
  obtain ⟨key, value⟩ := entry
  have happend : ofEntries (entries ++ later) = overlay (ofEntries entries) later :=
    List.foldl_append
  rw [mem_iff_get? (ordered_ofEntries _).nodup, mem_iff_get? (ordered_ofEntries _).nodup,
    mem_iff_get? (ordered_ofEntries _).nodup, happend, get?_overlay_entries, Option.or_eq_some_iff,
    ← get?_eq_none_iff, and_comm]

/-- A value that is put into a map is changed with the others. -/
theorem map_insert (f : α → β) (m : KeyMap α) (key : String) (value : α) :
    (insert m key value).map (fun entry => (entry.1, f entry.2)) =
      insert (m.map fun entry => (entry.1, f entry.2)) key (f value) := by
  induction m with
  | nil => rfl
  | cons entry rest ih =>
    obtain ⟨k, v⟩ := entry
    rw [List.map_cons, insert, insert]
    split
    · rfl
    · split
      · rfl
      · rw [List.map_cons, ih]

/-- The map of changed values is the changed map. -/
theorem ofEntries_map (f : α → β) (entries : List (String × α)) :
    ofEntries (entries.map fun entry => (entry.1, f entry.2)) =
      (ofEntries entries).map fun entry => (entry.1, f entry.2) := by
  suffices hfrom : ∀ m : KeyMap α,
      overlay (m.map fun entry => (entry.1, f entry.2))
          (entries.map fun entry => (entry.1, f entry.2)) =
        (overlay m entries).map fun entry => (entry.1, f entry.2) by
    exact hfrom []
  induction entries with
  | nil => exact fun m => rfl
  | cons entry rest ih =>
    intro m
    exact (congrArg (overlay · _) (map_insert f m entry.1 entry.2).symm).trans (ih _)

/-- A value that was changed is found under its key. -/
theorem get?_map {β : Type} (m : KeyMap α) (f : α → β) (key : String) :
    get? (m.map fun (k, v) => (k, f v)) key = (get? m key).map f := by
  induction m with
  | nil => rfl
  | cons entry rest ih =>
    obtain ⟨k, v⟩ := entry
    rw [List.map_cons, get?_cons, get?_cons, ih]
    split <;> rfl

/-- Entries that are left out do not matter for the keys that they do not have. -/
theorem get?_overlay_filter {m n : KeyMap α} (later : KeyMap α) {p : String × α → Bool}
    {key : String} (hp : ∀ entry ∈ later, entry.1 = key → p entry = true)
    (h : get? m key = get? n key) :
    get? (overlay m (later.filter p)) key = get? (overlay n later) key := by
  induction later generalizing m n with
  | nil => exact h
  | cons entry rest ih =>
    obtain ⟨k, v⟩ := entry
    have hrest : ∀ entry ∈ rest, entry.1 = key → p entry = true :=
      fun entry hentry => hp entry (List.mem_cons_of_mem _ hentry)
    by_cases hkept : p (k, v) = true
    · rw [List.filter_cons_of_pos hkept]
      have hinsert : get? (insert m k v) key = get? (insert n k v) key := by
        rw [get?_insert, get?_insert, h]
      exact ih hrest hinsert
    · rw [List.filter_cons_of_neg hkept]
      have hne : k ≠ key := fun hkey => hkept (hp (k, v) List.mem_cons_self hkey)
      have hinsert : get? m key = get? (insert n k v) key := by
        rw [get?_insert, if_neg hne, h]
      exact ih hrest hinsert

/-- Entries of a map that are left out are those that fail a test. -/
theorem get?_filter {m : KeyMap α} (hm : Ordered m) (p : String × α → Bool)
    (key : String) (value : α) :
    get? (m.filter p) key = some value ↔ get? m key = some value ∧ p (key, value) = true := by
  induction m with
  | nil => simp
  | cons entry rest ih =>
    obtain ⟨k, v⟩ := entry
    obtain ⟨hless, hrest⟩ := List.pairwise_cons.mp hm
    have hlater := ih hrest
    by_cases hkey : k = key
    · subst hkey
      -- The key is not found again behind its entry.
      have hnone : get? rest k = none := get?_eq_none_of_lt hless
      rw [hnone] at hlater
      by_cases hp : p (k, v) = true
      · rw [List.filter_cons_of_pos hp, get?_cons, get?_cons, if_pos rfl, if_pos rfl]
        refine ⟨fun h => ⟨h, ?_⟩, And.left⟩
        rw [← Option.some.inj h]
        exact hp
      · rw [List.filter_cons_of_neg hp, get?_cons, if_pos rfl, hlater]
        refine ⟨fun ⟨h, _⟩ => (nomatch h), fun ⟨h, hvalue⟩ => absurd hvalue ?_⟩
        rw [← Option.some.inj h]
        exact hp
    · by_cases hp : p (k, v) = true
      · rw [List.filter_cons_of_pos hp, get?_cons, get?_cons, if_neg hkey, if_neg hkey, hlater]
      · rw [List.filter_cons_of_neg hp, get?_cons, if_neg hkey, hlater]

/-- Entries that are left out by their keys. -/
theorem get?_filter_key (m : KeyMap α) (p : String → Bool) (key : String) :
    get? (m.filter fun entry => p entry.1) key = if p key then get? m key else none := by
  induction m with
  | nil => exact (ite_self _).symm
  | cons entry rest ih =>
    obtain ⟨k, v⟩ := entry
    rw [List.filter_cons]
    by_cases hkey : k = key
    · subst hkey
      split
      · rename_i hp
        rw [get?_cons, if_pos rfl, get?_cons, if_pos rfl]
      · rename_i hp
        rw [ih, if_neg hp]
    · rw [get?_cons, if_neg hkey, ← ih]
      split
      · rw [get?_cons, if_neg hkey]
      · rfl

/-- Ordered maps with the same view are equal. -/
theorem ext {m n : KeyMap α} (hm : Ordered m) (hn : Ordered n)
    (h : ∀ key, get? m key = get? n key) : m = n := by
  induction m generalizing n with
  | nil =>
    cases n with
    | nil => rfl
    | cons entry rest =>
      obtain ⟨k, v⟩ := entry
      simpa using h k
  | cons entry rest ih =>
    obtain ⟨k, v⟩ := entry
    cases n with
    | nil => simpa using h k
    | cons entry' rest' =>
      obtain ⟨k', v'⟩ := entry'
      simp only [Ordered, keys, List.map_cons, List.pairwise_cons] at hm hn
      have hkey : k = k' := by
        refine Classical.byContradiction fun hne => ?_
        have hk := h k
        have hk' := h k'
        simp only [get?_cons, if_true, if_neg hne, if_neg (Ne.symm hne)] at hk hk'
        rcases Std.lt_trichotomy k k' with hlt | heq | hlt
        · rw [get?_eq_none_of_lt fun x hx => String.lt_trans hlt (hn.1 x hx)] at hk
          cases hk
        · exact hne heq
        · rw [get?_eq_none_of_lt fun x hx => String.lt_trans hlt (hm.1 x hx)] at hk'
          cases hk'
      subst hkey
      have hv : v = v' := by simpa using h k
      subst hv
      rw [ih hm.2 hn.2]
      intro key
      by_cases hkey : k = key
      · subst hkey
        rw [get?_eq_none_of_lt hm.1, get?_eq_none_of_lt hn.1]
      · simpa [hkey] using h key

end KeyMap

end RestQuery
