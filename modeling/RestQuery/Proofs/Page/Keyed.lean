import RestQuery.Proofs.Page.Calls
import RestQuery.Proofs.Page.First

/-!
# Records that a query keys

A query with an index puts each of its records under the key that the index gives it, in place of a
record that had the key. So in the result every record stands under its own key
(`Connection.named_of_allWith`), whatever pages it was read from.
-/

namespace RestQuery

open Session

/-- What holds of the entries of a set, and of those that are put into it, holds of all. -/
theorem RecordSet.forall_insertAll {K : RowKey × Model → Prop} {s : RecordSet}
    {rows : List (RowKey × Model)} (h : ∀ entry ∈ s.entries, K entry)
    (hrows : ∀ entry ∈ rows, K entry) : ∀ entry ∈ (s.insertAll rows).entries, K entry := by
  induction rows generalizing s with
  | nil => exact h
  | cons first rest ih =>
    obtain ⟨hfirst, hrest⟩ := List.forall_mem_cons.mp hrows
    refine ih (s := s.insert first.1 first.2) (fun entry hentry => ?_) hrest
    rw [RecordSet.entries_insert] at hentry
    split at hentry
    · rcases List.mem_or_eq_of_mem_set hentry with hmem | rfl
      · exact h entry hmem
      · exact hfirst
    · rcases List.mem_append.mp hentry with hmem | hmem
      · exact h entry hmem
      · exact List.mem_singleton.mp hmem ▸ hfirst

section

variable {σ : Type} {conn : Connection σ} {load : Loader σ} {I : World σ → Prop} {q p : Query}
  {i : Index} {P : Model → Prop} {c : Cursor} {w : World σ} {records result : RecordSet}

/-- Whether all records of a set have a property, and stand under the keys that an index gives them.
-/
def RecordSet.KeyedBy (i : Index) (P : Model → Prop) (s : RecordSet) : Prop :=
  ∀ entry ∈ s.entries, entry.1 = .named (i.key entry.2) ∧ P entry.2

/-- A cursor over a query with an index hands out its records under their keys. -/
theorem RecordSet.KeyedBy.labelAll (h : records.KeyedBy i P) (hindex : c.query.index = some i)
    {models : List Model} (hmodels : ∀ m ∈ models, P m) :
    (c.labelAll models).1 = c ∧ (records.insertAll (c.labelAll models).2).KeyedBy i P := by
  rw [Cursor.labelAll_of_index hindex]
  refine ⟨rfl, RecordSet.forall_insertAll h fun entry hentry => ?_⟩
  obtain ⟨m, hm, rfl⟩ := List.mem_map.mp hentry
  exact ⟨rfl, hmodels m hm⟩

/-- The loop over a cursor keeps its records under their keys. -/
theorem Cursor.keyed_of_drain {budget : Nat} (hindex : p.index = some i)
    (hkeeps : ∀ c : Cursor, (c.readPage conn load).Keeps I)
    (hread : ∀ c : Cursor, c.query.IsPageOf p → ∀ w, I w → ∀ page models,
      (eval (c.readPage conn load) w).1 = .ok (page, models) → ∀ m ∈ models, P m)
    (hw : I w) (hquery : c.query.IsPageOf p) (hbuffer : ∀ m ∈ c.buffer, P m)
    (hrecords : records.KeyedBy i P)
    (h : (eval (c.drain conn load records budget) w).1 = .ok result) : result.KeyedBy i P := by
  induction budget generalizing c records w with
  | zero => cases h
  | succ budget ih =>
    obtain ⟨-, -, hsame, -⟩ := hquery.reads
    obtain ⟨hhanded, hmore⟩ := hrecords.labelAll
      (c := { c with buffer := [] }) (hsame.trans hindex) hbuffer
    rw [eval_drain_page] at h
    dsimp only at h
    rw [hhanded] at h
    cases hadvance : ({ c with buffer := [] } : Cursor).advance? conn.config with
    | none =>
      rw [hadvance] at h
      exact Except.ok.inj h ▸ hmore
    | some asked =>
      have hasked : asked.query.IsPageOf p := (Cursor.advance?_frame hadvance).1.trans hquery
      have hafter := hkeeps asked w hw
      rw [hadvance] at h
      dsimp only at h
      rcases houtcome : eval (asked.readPage conn load) w with ⟨e | ⟨page, models⟩, after⟩
      · rw [houtcome] at h
        cases h
      rw [houtcome] at h hafter
      have hmodels := hread asked hasked w hw page models (by rw [houtcome])
      dsimp only at h
      obtain ⟨hnone, -⟩ | ⟨m, rest, hsome, hsub, -⟩ :=
        ({ asked with page := some page } : Cursor).deliver_cases page models
      · rw [hnone] at h
        exact Except.ok.inj h ▸ hmore
      · rw [hsome] at h
        have hkept : ∀ m' ∈ m :: rest, P m' := fun m' hm' => hmodels m' (hsub.subset hm')
        exact ih (c := { (({ asked with page := some page } : Cursor).deliver page models).1 with
          buffer := m :: rest }) hafter hasked hkept hmore h

/-- Every record of a query with an index stands under the key that this gives it. -/
theorem Connection.named_of_allWith (hp : q.prepare conn.catalog = .ok p)
    (hindex : p.index = some i) (hkeeps : ∀ c : Cursor, (c.readPage conn load).Keeps I)
    (hread : ∀ c : Cursor, c.query.IsPageOf p → ∀ w, I w → ∀ page models,
      (eval (c.readPage conn load) w).1 = .ok (page, models) → ∀ m ∈ models, P m)
    (hw : I w) (hall : (eval (conn.allWith load q) w).1 = .ok records) : records.KeyedBy i P := by
  rw [conn.allWith_eq_drain load hp] at hall
  have hempty : RecordSet.empty.KeyedBy i P := List.forall_mem_nil _
  exact Cursor.keyed_of_drain hindex hkeeps hread hw (.inl rfl) (List.forall_mem_nil _) hempty hall

end

end RestQuery
