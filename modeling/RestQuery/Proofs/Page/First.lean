import RestQuery.Proofs.Connection.Reading
import RestQuery.Proofs.Query.All

/-!
# The first record of a query

The first record of the first page is the first record of all: what is read later is numbered on, or
put behind it. Only a query that keys its records may put another one in its place, and that has the
same attributes if the keys tell the records apart. `RecordSet.Begins` is what holds of the records
collected so far, `Cursor.Past` what holds of the cursor behind the first record; both are kept from
page to page (`Cursor.drain_begins`), which gives the first record of all
(`Connection.first?_allWith`).
-/

namespace RestQuery

open Session

namespace RecordSet

variable {s : RecordSet} {key : RowKey} {attributes : KeyMap Json}

/-- Whether a set begins with a record that has a key and some attributes. -/
def Begins (s : RecordSet) (key : RowKey) (attributes : KeyMap Json) : Prop :=
  ∃ m rest, s.entries = (key, m) :: rest ∧ m.attributes = attributes

theorem Begins.first? (h : s.Begins key attributes) :
    s.first?.map Model.attributes = some attributes := by
  obtain ⟨m, rest, hentries, rfl⟩ := h
  rw [RecordSet.first?, models, hentries]
  rfl

/-- A record that is put into the set leaves the first in its place, or has its key. -/
theorem Begins.insert (h : s.Begins key attributes) {key' : RowKey} {m : Model}
    (hsame : key' = key → m.attributes = attributes) : (s.insert key' m).Begins key attributes := by
  obtain ⟨first, rest, hentries, hfirst⟩ := h
  rw [Begins, entries_insert, hentries, List.findIdx?_cons]
  by_cases hkey : key' = key
  · rw [if_pos (beq_iff_eq.mpr hkey.symm)]
    exact ⟨m, rest, by rw [hkey]; rfl, hsame hkey⟩
  · rw [if_neg (by simpa using Ne.symm hkey)]
    cases rest.findIdx? fun entry => entry.1 == key' with
    | none => exact ⟨first, _, rfl, hfirst⟩
    | some i => exact ⟨first, _, rfl, hfirst⟩

theorem Begins.insertAll {rows : List (RowKey × Model)} (h : s.Begins key attributes)
    (hrows : ∀ entry ∈ rows, entry.1 = key → entry.2.attributes = attributes) :
    (s.insertAll rows).Begins key attributes := by
  induction rows generalizing s with
  | nil => exact h
  | cons entry rest ih =>
    have hentry := h.insert (hrows entry List.mem_cons_self)
    exact ih hentry fun entry hmem => hrows entry (List.mem_cons_of_mem _ hmem)

/-- The first record that is put into a set is its first. -/
theorem begins_insertAll_empty {m : Model} {rest : List (RowKey × Model)}
    (hrest : ∀ entry ∈ rest, entry.1 = key → entry.2.attributes = m.attributes) :
    (empty.insertAll ((key, m) :: rest)).Begins key m.attributes := by
  have hone : (empty.insert key m).Begins key m.attributes := ⟨m, [], rfl, rfl⟩
  exact hone.insertAll hrest

end RecordSet

namespace Cursor

variable {σ : Type} {conn : Connection σ} {load : Loader σ} {I : World σ → Prop} {p : Query}
  {key : RowKey} {attributes : KeyMap Json} {P : Model → Prop} {c : Cursor}

/-- Whether a cursor over pages of a query has given a key to a record with some attributes, and
gives it to no other records of those that are read. -/
structure Past (p : Query) (key : RowKey) (attributes : KeyMap Json) (P : Model → Prop)
    (c : Cursor) : Prop where
  query : c.query.IsPageOf p
  numbered : p.index = none → ∃ n < c.nextIndex, key = .index n
  named : ∀ i, p.index = some i → ∀ m, P m → RowKey.named (i.key m) = key →
    m.attributes = attributes

/-- The cursor hands out no other record under the key. -/
theorem Past.labelAll (h : c.Past p key attributes P) {models : List Model}
    (hmodels : ∀ m ∈ models, P m) :
    (c.labelAll models).1.Past p key attributes P ∧
      ∀ entry ∈ (c.labelAll models).2, entry.1 = key → entry.2.attributes = attributes := by
  obtain ⟨-, -, hindex, -⟩ := h.query.reads
  cases hp : p.index with
  | none =>
    obtain ⟨n, hn, rfl⟩ := h.numbered hp
    rw [labelAll_eq (hindex.trans hp)]
    refine ⟨⟨h.query, fun _ => ⟨n, Nat.lt_of_lt_of_le hn (Nat.le_add_right _ _), rfl⟩, h.named⟩, ?_⟩
    -- The numbers go on behind the one that was given.
    intro entry hentry hkey
    obtain ⟨i, hi, rfl⟩ := List.mem_mapIdx.mp hentry
    have hnumber : c.nextIndex + i = n := RowKey.index.inj hkey
    omega
  | some i =>
    rw [labelAll_of_index (hindex.trans hp)]
    refine ⟨h, fun entry hentry hkey => ?_⟩
    obtain ⟨m, hm, rfl⟩ := List.mem_map.mp hentry
    exact h.named i hp m (hmodels m hm) hkey

/-- A cursor that hands out a record is past its key, if the records are told apart by their keys.
-/
theorem past_label (hquery : c.query.IsPageOf p) {m : Model} (hm : P m)
    (hapart : ∀ i, p.index = some i → ∀ m m', P m → P m' → i.key m = i.key m' →
      m.attributes = m'.attributes) : (c.label m).1.Past p (c.label m).2 m.attributes P := by
  obtain ⟨-, -, hindex, -⟩ := hquery.reads
  unfold label
  cases hp : p.index with
  | none =>
    rw [hindex, hp]
    exact ⟨hquery, fun _ => ⟨c.nextIndex, Nat.lt_succ_self _, rfl⟩, by rw [hp]; exact nofun⟩
  | some i =>
    rw [hindex, hp]
    refine ⟨hquery, by rw [hp]; exact nofun, fun i' hi' m' hm' hkey => ?_⟩
    obtain rfl := Option.some.inj (hp.symm.trans hi')
    exact hapart i hi' m' m hm' hm (RowKey.named.inj hkey)

/-- The first of the records that a cursor hands out begins a set of them. -/
theorem begins_labelAll (hquery : c.query.IsPageOf p) {m : Model} {rest : List Model}
    (hmodels : ∀ m' ∈ m :: rest, P m')
    (hapart : ∀ i, p.index = some i → ∀ m m', P m → P m' → i.key m = i.key m' →
      m.attributes = m'.attributes) :
    (RecordSet.empty.insertAll (c.labelAll (m :: rest)).2).Begins (c.label m).2 m.attributes ∧
      (c.labelAll (m :: rest)).1.Past p (c.label m).2 m.attributes P := by
  have hfirst := past_label hquery (hmodels m List.mem_cons_self) hapart
  obtain ⟨hpast, hentries⟩ := hfirst.labelAll fun m' hm' => hmodels m' (List.mem_cons_of_mem m hm')
  exact ⟨RecordSet.begins_insertAll_empty hentries, hpast⟩

/-- The cursor stays past the key when it moves to another page. -/
theorem Past.advance? (h : c.Past p key attributes P) {config : Config} {asked : Cursor}
    (hasked : c.advance? config = some asked) : asked.Past p key attributes P := by
  obtain ⟨-, ⟨-, rfl⟩ | ⟨-, size, offset, -, rfl⟩⟩ := advance?_cases hasked
  · exact ⟨h.query, h.numbered, h.named⟩
  · exact ⟨h.query.withWindow size offset, h.numbered, h.named⟩

/-- Nothing is delivered of a page, or some of its records with the first. -/
theorem deliver_cases (c : Cursor) (page : Page.Info) (models : List Model) :
    ((c.deliver page models).2 = none ∧ c.keep models = []) ∨
      ∃ m rest, (c.deliver page models).2 = some (m :: rest) ∧ (m :: rest).Sublist models ∧
        models.head? = some m := by
  have hdelivered : (c.deliver page models).2 =
      if (c.keep models).isEmpty then none else some (c.keep models) := rfl
  rw [hdelivered]
  cases hkept : c.keep models with
  | nil => exact .inl ⟨rfl, rfl⟩
  | cons m rest =>
    refine .inr ⟨m, rest, rfl, ?_⟩
    rw [← hkept]
    unfold keep at hkept ⊢
    split at hkept
    · rename_i limit hlimit
      -- Something is kept, so the limit leaves the first record at least.
      have hpos : limit - c.fetched ≠ 0 := by
        intro hzero
        rw [hzero, List.take_zero] at hkept
        cases hkept
      have hhead : (models.take (limit - c.fetched)).head? = some m := by rw [hkept]; rfl
      rw [List.head?_take, if_neg hpos] at hhead
      exact ⟨List.take_sublist _ _, hhead⟩
    · exact ⟨.refl _, by rw [hkept]; rfl⟩

/-- A loop that is past the first record keeps it. -/
theorem drain_begins {w : World σ} {records result : RecordSet} {budget : Nat}
    (hkeeps : ∀ c : Cursor, (c.readPage conn load).Keeps I)
    (hread : ∀ c : Cursor, c.query.IsPageOf p → ∀ w, I w → ∀ page models,
      (eval (c.readPage conn load) w).1 = .ok (page, models) → ∀ m ∈ models, P m) (hw : I w)
    (hbegins : (records.insertAll (({ c with buffer := [] } : Cursor).labelAll c.buffer).2).Begins
      key attributes)
    (hpast : (({ c with buffer := [] } : Cursor).labelAll c.buffer).1.Past p key attributes P)
    (h : (eval (c.drain conn load records budget) w).1 = .ok result) :
    result.Begins key attributes := by
  -- What was collected begins with the first record, and no later record has its key with other
  -- attributes: both hold again after every page.
  induction budget generalizing c records w with
  | zero => cases h
  | succ budget ih =>
    rw [eval_drain_page] at h
    dsimp only at h
    generalize ({ c with buffer := [] } : Cursor).labelAll c.buffer = handed at hbegins hpast h
    cases hadvance : handed.1.advance? conn.config with
    | none =>
      rw [hadvance] at h
      exact Except.ok.inj h ▸ hbegins
    | some asked =>
      have hasked := hpast.advance? hadvance
      have hafter := hkeeps asked w hw
      rw [hadvance] at h
      dsimp only at h
      rcases houtcome : eval (asked.readPage conn load) w with ⟨e | ⟨page, models⟩, after⟩
      · rw [houtcome] at h
        cases h
      · rw [houtcome] at h hafter
        have hmodels := hread asked hasked.query w hw page models (by rw [houtcome])
        dsimp only at h
        obtain ⟨hnone, -⟩ | ⟨m, rest, hsome, hsub, -⟩ :=
          ({ asked with page := some page } : Cursor).deliver_cases page models
        · rw [hnone] at h
          exact Except.ok.inj h ▸ hbegins
        · rw [hsome] at h
          have hnext : ({ (({ asked with page := some page } : Cursor).deliver page models).1 with
              buffer := [] } : Cursor).Past p key attributes P :=
            ⟨hasked.query, hasked.numbered, hasked.named⟩
          obtain ⟨hpast', hentries⟩ := hnext.labelAll fun m hm => hmodels m (hsub.subset hm)
          exact ih hafter (hbegins.insertAll hentries) hpast' h

end Cursor

namespace Connection

variable {σ : Type} {conn : Connection σ} {load : Loader σ} {I : World σ → Prop} {q p : Query}
  {P : Model → Prop} {w : World σ} {records : RecordSet}

/-- The first record of all is the first that is read of the first page, if the records that may be
read are told apart by their keys. -/
theorem first?_allWith (hp : q.prepare conn.catalog = .ok p) (hlimit : q.limit ≠ some 0)
    (hkeeps : ∀ c : Cursor, (c.readPage conn load).Keeps I)
    (hread : ∀ c : Cursor, c.query.IsPageOf p → ∀ w, I w → ∀ page models,
      (eval (c.readPage conn load) w).1 = .ok (page, models) → ∀ m ∈ models, P m)
    (hapart : ∀ i, p.index = some i → ∀ m m', P m → P m' → i.key m = i.key m' →
      m.attributes = m'.attributes) (hw : I w)
    (hall : (eval (conn.allWith load q) w).1 = .ok records) :
    ∃ page models, (eval (({ Cursor.start p with state := .fetching } : Cursor).readPage conn load)
        w).1 = .ok (page, models) ∧
      records.first?.map Model.attributes = models.head?.map Model.attributes := by
  let asked : Cursor := { Cursor.start p with state := .fetching }
  obtain ⟨hsame, -⟩ := Query.window_of_prepare hp
  have hopen : p.limit.any (· ≤ 0) = false := by
    rw [hsame]
    cases hq : q.limit with
    | none => rfl
    | some limit =>
      have hpos : limit ≠ 0 := fun h0 => hlimit (hq.trans (congrArg some h0))
      simpa using hpos
  have hadvance : (({ Cursor.start p with buffer := [] } : Cursor).labelAll
      (Cursor.start p).buffer).1.advance? conn.config = some asked := by
    show (Cursor.start p).advance? conn.config = _
    rw [Cursor.advance?_of_fresh _ rfl]
    exact if_neg (by simpa [Cursor.start] using hopen)
  rw [conn.allWith_eq_drain load hp] at hall
  cases hbudget : conn.pageBudget with
  | zero =>
    rw [hbudget] at hall
    cases hall
  | succ budget =>
    rw [hbudget, Cursor.eval_drain_page] at hall
    dsimp only at hall
    rw [hadvance] at hall
    dsimp only at hall
    have hafter := hkeeps asked w hw
    rcases houtcome : eval (asked.readPage conn load) w with ⟨e | ⟨page, models⟩, after⟩
    · rw [houtcome] at hall
      cases hall
    rw [houtcome] at hall hafter
    have hmodels := hread asked (.inl rfl) w hw page models (by rw [houtcome])
    refine ⟨page, models, rfl, ?_⟩
    let told : Cursor := { asked with page := some page }
    dsimp only at hall
    obtain ⟨hnone, hkept⟩ | ⟨m, rest, hsome, hsub, hhead⟩ := told.deliver_cases page models
    · -- The limit leaves some records, so the page has none.
      have hempty : models = [] := by
        rw [Cursor.keep] at hkept
        split at hkept
        · rename_i limit hp'
          have hpos : limit ≠ 0 := by
            rw [show p.limit = some limit from hp'] at hopen
            simpa using hopen
          have hzero : limit - told.fetched = limit := Nat.sub_zero limit
          rw [hzero] at hkept
          simpa [hpos] using hkept
        · exact hkept
      rw [hnone] at hall
      obtain rfl := Except.ok.inj hall
      rw [hempty]
      rfl
    · rw [hsome] at hall
      have hquery : (told.deliver page models).1.query.IsPageOf p := .inl rfl
      obtain ⟨hbegins, hpast⟩ := Cursor.begins_labelAll
        (c := { (told.deliver page models).1 with buffer := [] }) hquery
        (fun m' hm' => hmodels m' (hsub.subset hm')) hapart
      rw [(Cursor.drain_begins hkeeps hread hafter hbegins hpast hall).first?, hhead]
      rfl

end Connection

end RestQuery
