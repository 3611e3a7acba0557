import RestQuery.Model.Basic
import RestQuery.Proofs.Outcome

/-!
# Rows that are read one by one

The rows of a response are read separately: what becomes of a row does not depend on the others
(`ofRows?_drop_take`). Rows with declared fields only are read in strict mode as well, and each
holds the record of its members (`ofRows?_of_declares`).
-/

namespace RestQuery

/-- Whether a row is an object with declared fields only, none of which holds related records. -/
def Schema.Declares (s : Schema) (row : Json) : Prop :=
  ∃ members, row = .object members ∧
    ∀ entry ∈ members, s.hasField entry.1 ∧ ∀ r ∈ s.relations, r.responseKey ≠ entry.1

/-- The members of a row; no other value has members. -/
def Json.members : Json → List (String × Json)
  | .object members => members
  | _ => []

namespace Model

variable {g : Catalog} {strict : Bool} {s : Schema}

/-- The record that a row with declared fields only holds. -/
def ofFields (s : Schema) (row : Json) : Model :=
  { new s with attributes := KeyMap.ofEntries row.members }.settle

/-- Whether the server is known to hold a record changes nothing else of it. -/
theorem settle_eq (m : Model) : ∃ snapshot, m.settle = { m with snapshot := snapshot } := by
  unfold settle
  split
  · exact ⟨some m.attributes, rfl⟩
  · exact ⟨m.snapshot, by cases m; rfl⟩

/-- The record of a row is of the type, has the members of the row, and nothing is attached to it.
-/
theorem ofFields_eq (s : Schema) (row : Json) :
    (ofFields s row).schema = s ∧ (ofFields s row).attributes = KeyMap.ofEntries row.members ∧
      (ofFields s row).related = [] := by
  obtain ⟨snapshot, heq⟩ := settle_eq { new s with attributes := KeyMap.ofEntries row.members }
  rw [ofFields, heq]
  exact ⟨rfl, rfl, rfl⟩

/-- Members that are declared fields are read one by one. -/
theorem ofMembers?_of_declared (g : Catalog) (strict : Bool) (m : Model)
    {members : List (String × Json)}
    (h : ∀ entry ∈ members, s.hasField entry.1 ∧ ∀ r ∈ s.relations, r.responseKey ≠ entry.1) :
    ofMembers? g strict s m members =
      .ok { m with attributes := KeyMap.overlay m.attributes members } := by
  induction members generalizing m with
  | nil => rw [ofMembers?]; cases m; rfl
  | cons entry rest ih =>
    obtain ⟨key, value⟩ := entry
    obtain ⟨hfield, hrelation⟩ := h (key, value) List.mem_cons_self
    have hnone : s.relationForKey? key = none := by
      rw [Schema.relationForKey?, List.find?_eq_none]
      intro r hr hkey
      exact hrelation r hr (beq_iff_eq.mp hkey)
    rw [ofMembers?, hnone]
    dsimp only
    rw [if_pos hfield]
    exact ih _ (fun entry hmem => h entry (List.mem_cons_of_mem _ hmem))

/-- The members of a row that are declared fields, and hold no related records, become the
attributes of a record. -/
theorem attributes_ofMembers? {members : List (String × Json)} {m m' : Model}
    (h : ofMembers? g strict s m members = .ok m') :
    m'.attributes = KeyMap.overlay m.attributes (members.filter fun entry =>
      (s.relationForKey? entry.1).isNone && s.hasField entry.1) := by
  induction members generalizing m with
  | nil =>
    rw [ofMembers?] at h
    cases h
    rfl
  | cons entry rest ih =>
    obtain ⟨key, value⟩ := entry
    rw [ofMembers?] at h
    cases hrelation : s.relationForKey? key with
    | some relation =>
      rw [hrelation] at h
      obtain ⟨r, -, h⟩ := bind_eq_ok_iff.mp h
      rw [ih h, List.filter_cons_of_neg (by simp [hrelation])]
      rfl
    | none =>
      rw [hrelation] at h
      dsimp only at h
      split at h
      · rename_i hfield
        rw [ih h, List.filter_cons_of_pos (by simp [hrelation, hfield])]
        rfl
      · rename_i hfield
        split at h
        · cases h
        · rw [ih h, List.filter_cons_of_neg (by simp [hfield])]

/-- The attributes of a record that is read of a row. -/
theorem attributes_ofRow? {row : Json} {m : Model} (h : ofRow? g strict s row = .ok m) :
    m.attributes = KeyMap.ofEntries (row.members.filter fun entry =>
      (s.relationForKey? entry.1).isNone && s.hasField entry.1) := by
  cases row with
  | object members =>
    rw [ofRow?] at h
    obtain ⟨read, hread, rfl⟩ := map_eq_ok_iff.mp h
    obtain ⟨snapshot, hsettle⟩ := settle_eq read
    rw [hsettle]
    exact attributes_ofMembers? hread
  | _ => cases h

/-- A row with declared fields only is read. -/
theorem ofRow?_of_declares (g : Catalog) (strict : Bool) {row : Json} (h : s.Declares row) :
    ofRow? g strict s row = .ok (ofFields s row) := by
  obtain ⟨members, rfl, hmembers⟩ := h
  rw [ofRow?, ofMembers?_of_declared g strict (new s) hmembers]
  rfl

/-- Rows with declared fields only are read. -/
theorem ofRows?_of_declares (g : Catalog) (strict : Bool) {rows : List Json}
    (h : ∀ row ∈ rows, s.Declares row) : ofRows? g strict s rows = .ok (rows.map (ofFields s)) := by
  induction rows with
  | nil => rw [ofRows?]; rfl
  | cons row rest ih =>
    rw [ofRows?, ofRow?_of_declares g strict (h row List.mem_cons_self),
      ih fun row hmem => h row (List.mem_cons_of_mem _ hmem)]
    rfl

/-- Reading rows is reading the first and reading the others. -/
theorem ofRows?_cons_eq_ok {row : Json} {rest : List Json} {ms : List Model} :
    ofRows? g strict s (row :: rest) = .ok ms ↔
      ∃ m ms', ofRow? g strict s row = .ok m ∧ ofRows? g strict s rest = .ok ms' ∧
        ms = m :: ms' := by
  rw [ofRows?]
  constructor
  · intro h
    obtain ⟨m, hm, h⟩ := bind_eq_ok_iff.mp h
    obtain ⟨ms', hrest, h⟩ := bind_eq_ok_iff.mp h
    cases h
    exact ⟨m, ms', hm, hrest, rfl⟩
  · rintro ⟨m, ms', hm, hrest, rfl⟩
    rw [hm, hrest]
    rfl

/-- As many records are read as there are rows. -/
theorem length_of_ofRows? {rows : List Json} {ms : List Model}
    (h : ofRows? g strict s rows = .ok ms) : ms.length = rows.length := by
  induction rows generalizing ms with
  | nil =>
    rw [ofRows?] at h
    cases h
    rfl
  | cons row rest ih =>
    obtain ⟨m, ms', -, hrest, rfl⟩ := ofRows?_cons_eq_ok.mp h
    rw [List.length_cons, List.length_cons, ih hrest]

/-- The rows of a stretch are read as the stretch of the records. -/
theorem ofRows?_drop_take {rows : List Json} {ms : List Model}
    (h : ofRows? g strict s rows = .ok ms) (start count : Nat) :
    ofRows? g strict s ((rows.drop start).take count) = .ok ((ms.drop start).take count) := by
  induction rows generalizing ms start count with
  | nil =>
    rw [ofRows?] at h
    cases h
    simp [ofRows?]
  | cons row rest ih =>
    obtain ⟨m, ms', hm, hrest, rfl⟩ := ofRows?_cons_eq_ok.mp h
    cases start with
    | succ start => exact ih hrest start count
    | zero =>
      cases count with
      | zero => rw [List.take_zero, List.take_zero, ofRows?]
      | succ count =>
        have htake := ih hrest 0 count
        rw [List.drop_zero, List.drop_zero] at htake
        exact ofRows?_cons_eq_ok.mpr ⟨m, _, hm, htake, rfl⟩

end Model

end RestQuery
