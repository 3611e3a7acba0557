import Mathlib.Data.List.Forall2
import RestQuery.Proofs.Connection.Reading
import RestQuery.Proofs.Query.All

/-!
# Two cursors that are read side by side

Two queries may be read page by page over one connection so that what is read of the one tells what
is read of the other: the same pages are asked for, and the records are related one by one.
`PagesAlike` says what it takes of a single page. The cursors then stay in step: they move to the
same next page (`Cursor.Alike.advance?`), deliver as many of its records (`Cursor.Alike.deliver`),
and hand these out under the same keys (`Cursor.Alike.labelAll`). So the loops over the two cursors
end alike (`PagesAlike.drain`), and so do the queries (`PagesAlike.allWith`).

Outcomes are `OutcomesAlike` if both are results that are related, or both are failures. That a
failure of one run is a failure of the other is not always so; a proposition tells whether it is.
-/

namespace RestQuery

open Session

universe u v w

/-- Whether two outcomes are related results, or failures. Where it is `exact`, the failures are the
same and neither run fails alone. -/
def OutcomesAlike {ε : Type u} {α : Type v} {β : Type w} (exact : Prop) (rel : α → β → Prop) :
    Except ε α → Except ε β → Prop
  | .ok x, .ok y => rel x y
  | .error e, .error e' => exact → e = e'
  | .ok _, .error _ | .error _, .ok _ => ¬ exact

namespace OutcomesAlike

variable {ε α α' β β' : Type} {exact : Prop} {rel : α → α' → Prop} {rel' : β → β' → Prop}
  {x : Except ε α} {x' : Except ε α'}

/-- Where failures are not told apart, a failure is like anything. -/
theorem error_left (h : ¬ exact) (e : ε) (x' : Except ε α') :
    OutcomesAlike exact rel (.error e) x' := by
  cases x' with
  | error e' => exact fun hexact => absurd hexact h
  | ok a' => exact h

theorem error_right (h : ¬ exact) (x : Except ε α) (e : ε) :
    OutcomesAlike exact rel x (.error e) := by
  cases x with
  | error e' => exact fun hexact => absurd hexact h
  | ok a => exact h

/-- What is made of related results is related. -/
theorem map {f : α → β} {f' : α' → β'} (h : OutcomesAlike exact rel x x')
    (hf : ∀ a a', rel a a' → rel' (f a) (f' a')) :
    OutcomesAlike exact rel' (x.map f) (x'.map f') := by
  rcases x with e | a <;> rcases x' with e' | a'
  · exact h
  · exact h
  · exact h
  · exact hf a a' h

/-- Where failures are told apart, outcomes with the same results are the same. -/
theorem eq_of_exact {x' : Except ε α} (h : OutcomesAlike exact (· = ·) x x') (hexact : exact) :
    x = x' := by
  rcases x with e | a <;> rcases x' with e' | a'
  · exact congrArg Except.error (h hexact)
  · exact absurd hexact h
  · exact absurd hexact h
  · exact congrArg Except.ok h

end OutcomesAlike

/-! ## Record sets -/

variable {R : Model → Model → Prop}

/-- Whether two entries have one key and related records. -/
def EntriesAlike (R : Model → Model → Prop) (entry entry' : RowKey × Model) : Prop :=
  entry.1 = entry'.1 ∧ R entry.2 entry'.2

namespace RecordSet

/-- Whether two sets have the same keys in order, and related records. -/
def Alike (R : Model → Model → Prop) (s s' : RecordSet) : Prop :=
  List.Forall₂ (EntriesAlike R) s.entries s'.entries

variable {s s' : RecordSet}

theorem Alike.keys_eq (h : s.Alike R s') : s.keys = s'.keys := by
  have hkeys : List.Forall₂ (· = ·) s.keys s'.keys :=
    List.forall₂_map_left_iff.mpr (List.forall₂_map_right_iff.mpr (h.imp fun _ _ => And.left))
  exact List.forall₂_eq_eq_eq ▸ hkeys

theorem Alike.models (h : s.Alike R s') : List.Forall₂ R s.models s'.models :=
  List.forall₂_map_left_iff.mpr (List.forall₂_map_right_iff.mpr (h.imp fun _ _ => And.right))

/-- A key has one place in both sets. -/
theorem Alike.findIdx?_eq (h : s.Alike R s') (key : RowKey) :
    s.entries.findIdx? (·.1 == key) = s'.entries.findIdx? (·.1 == key) := by
  have hkeys : s.entries.map Prod.fst = s'.entries.map Prod.fst := h.keys_eq
  rw [RowKey.findIdx?_entries, RowKey.findIdx?_entries, hkeys]

/-- Related records that are put under one key leave the sets alike. -/
theorem Alike.insert (h : s.Alike R s') (key : RowKey) {m m' : Model} (hm : R m m') :
    (s.insert key m).Alike R (s'.insert key m') := by
  have hset : ∀ {entries entries' : List (RowKey × Model)} (i : Nat),
      List.Forall₂ (EntriesAlike R) entries entries' →
        List.Forall₂ (EntriesAlike R) (entries.set i (key, m)) (entries'.set i (key, m')) := by
    intro entries entries' i hentries
    induction hentries generalizing i with
    | nil => exact .nil
    | cons hentry hrest ih =>
      cases i with
      | zero => exact .cons ⟨rfl, hm⟩ hrest
      | succ i => exact .cons hentry (ih i)
  -- The key has the same place in both sets, or is new to both.
  rw [Alike, entries_insert, entries_insert, h.findIdx?_eq key]
  cases s'.entries.findIdx? (·.1 == key) with
  | some i => exact hset i h
  | none => exact List.rel_append h (.cons ⟨rfl, hm⟩ .nil)

theorem Alike.insertAll {rows rows' : List (RowKey × Model)} (h : s.Alike R s')
    (hrows : List.Forall₂ (EntriesAlike R) rows rows') :
    (s.insertAll rows).Alike R (s'.insertAll rows') := by
  induction hrows generalizing s s' with
  | nil => exact h
  | @cons entry entry' rest rest' hentry _ ih =>
    obtain ⟨key, m⟩ := entry
    obtain ⟨key', m'⟩ := entry'
    obtain ⟨rfl, hm⟩ := hentry
    exact ih (h.insert key hm)

end RecordSet

/-- Outcomes that are alike, where failures are told apart, have the same keys or the same failure.
-/
theorem OutcomesAlike.keys_eq {ε : Type} {exact : Prop} {x x' : Except ε RecordSet}
    (h : OutcomesAlike exact (RecordSet.Alike R) x x') (hexact : exact) :
    x.map RecordSet.keys = x'.map RecordSet.keys :=
  (h.map fun _ _ => RecordSet.Alike.keys_eq).eq_of_exact hexact

/-! ## Cursors in step -/

section

variable {σ : Type} {Q : Query → Query → Prop} {c c' : Cursor}

/-- What it takes that two related queries can be read by cursors in step: they move alike, and give
related records the same key. -/
structure QueriesAlike (Q : Query → Query → Prop) (R : Model → Model → Prop) : Prop where
  moves : ∀ {q q' : Query}, Q q q' → ∀ size offset,
    Q (q.withWindow size offset) (q'.withWindow size offset)
  perPage : ∀ {q q' : Query}, Q q q' → q.perPage = q'.perPage
  key : ∀ {q q' : Query}, Q q q' → ∀ {m m' : Model}, R m m' →
    q.index.map (·.key m) = q'.index.map (·.key m')

/-- Whether two cursors are at the same place of related queries, with related records in hand. -/
structure Cursor.Alike (Q : Query → Query → Prop) (R : Model → Model → Prop) (c c' : Cursor) :
    Prop where
  query : Q c.query c'.query
  initial : c.initial = c'.initial
  state : c.state = c'.state
  page : c.page = c'.page
  fetched : c.fetched = c'.fetched
  nextIndex : c.nextIndex = c'.nextIndex
  buffer : List.Forall₂ R c.buffer c'.buffer

namespace Cursor.Alike

/-- Cursors in step have other related records in hand and are in step. -/
theorem withBuffer (h : c.Alike Q R c') {models models' : List Model}
    (hmodels : List.Forall₂ R models models') :
    ({ c with buffer := models } : Cursor).Alike Q R { c' with buffer := models' } :=
  ⟨h.query, h.initial, h.state, h.page, h.fetched, h.nextIndex, hmodels⟩

/-- Cursors that are told the same are in step. -/
theorem told (h : c.Alike Q R c') (page : Page.Info) :
    ({ c with page := some page } : Cursor).Alike Q R { c' with page := some page } :=
  ⟨h.query, h.initial, h.state, rfl, h.fetched, h.nextIndex, h.buffer⟩

/-- Cursors in step move to the same page, or neither does. -/
theorem advance? (hQ : QueriesAlike Q R) (h : c.Alike Q R c') (config : Config) :
    (c.advance? config = none ∧ c'.advance? config = none) ∨
      ∃ asked asked', c.advance? config = some asked ∧ c'.advance? config = some asked' ∧
        asked.Alike Q R asked' := by
  have hwindow : c.nextWindow? config = c'.nextWindow? config := by
    unfold nextWindow?
    rw [h.page, hQ.perPage h.query]
  unfold Cursor.advance?
  rw [h.state, h.initial, h.fetched, hwindow]
  split
  · exact .inl ⟨rfl, rfl⟩
  split
  · exact .inl ⟨rfl, rfl⟩
  split
  · exact .inr ⟨_, _, rfl, rfl,
      ⟨h.query, rfl, rfl, h.page, rfl, h.nextIndex, h.buffer⟩⟩
  · cases c'.nextWindow? config with
    | none => exact .inl ⟨rfl, rfl⟩
    | some window => exact .inr ⟨_, _, rfl, rfl,
        ⟨hQ.moves h.query window.1 window.2, rfl, rfl, h.page, rfl, h.nextIndex, h.buffer⟩⟩

/-- Of related records, cursors in step keep as many. -/
theorem keep (h : c.Alike Q R c') {models models' : List Model}
    (hmodels : List.Forall₂ R models models') :
    List.Forall₂ R (c.keep models) (c'.keep models') := by
  unfold Cursor.keep
  rw [h.initial, h.fetched]
  cases c'.initial.limit with
  | none => exact hmodels
  | some limit => exact List.forall₂_take (limit - c'.fetched) hmodels

/-- Cursors in step that take a page deliver related records, or neither does, and are in step. -/
theorem deliver (h : c.Alike Q R c') (page : Page.Info) {models models' : List Model}
    (hmodels : List.Forall₂ R models models') :
    (c.deliver page models).1.Alike Q R (c'.deliver page models').1 ∧
      (((c.deliver page models).2 = none ∧ (c'.deliver page models').2 = none) ∨
        ∃ kept kept', (c.deliver page models).2 = some kept ∧
          (c'.deliver page models').2 = some kept' ∧ List.Forall₂ R kept kept') := by
  have hkept := h.keep hmodels
  have hempty : (c.keep models).isEmpty = (c'.keep models').isEmpty := by
    rw [Bool.eq_iff_iff, List.isEmpty_iff_length_eq_zero, List.isEmpty_iff_length_eq_zero,
      hkept.length_eq]
  have hlast : c.isLast page models = c'.isLast page models' := by
    rw [isLast, isLast, hempty, h.initial, h.fetched, hmodels.length_eq]
  unfold Cursor.deliver
  dsimp only
  refine ⟨⟨h.query, h.initial, ?_, h.page, ?_, h.nextIndex, h.buffer⟩, ?_⟩
  · rw [hlast, h.state]
  · rw [hkept.length_eq, h.fetched]
  · rw [hempty]
    split
    · exact .inl ⟨rfl, rfl⟩
    · exact .inr ⟨_, _, rfl, rfl, hkept⟩

/-- Cursors in step hand out related records under one key. -/
theorem label (hQ : QueriesAlike Q R) (h : c.Alike Q R c') {m m' : Model} (hm : R m m') :
    (c.label m).1.Alike Q R (c'.label m').1 ∧ (c.label m).2 = (c'.label m').2 := by
  have hkey := hQ.key h.query hm
  unfold Cursor.label
  cases hindex : c.query.index with
  | some index =>
    rw [hindex, Option.map_some] at hkey
    obtain ⟨index', hindex', hkey⟩ := Option.map_eq_some_iff.mp hkey.symm
    rw [hindex']
    exact ⟨h, congrArg RowKey.named hkey.symm⟩
  | none =>
    rw [hindex, Option.map_none] at hkey
    rw [Option.map_eq_none_iff.mp hkey.symm]
    refine ⟨⟨h.query, h.initial, h.state, h.page, h.fetched, ?_, h.buffer⟩, ?_⟩
    · exact congrArg (· + 1) h.nextIndex
    · exact congrArg RowKey.index h.nextIndex

theorem labelAll (hQ : QueriesAlike Q R) (h : c.Alike Q R c') {models models' : List Model}
    (hmodels : List.Forall₂ R models models') :
    (c.labelAll models).1.Alike Q R (c'.labelAll models').1 ∧
      List.Forall₂ (EntriesAlike R) (c.labelAll models).2 (c'.labelAll models').2 := by
  induction hmodels generalizing c c' with
  | nil => exact ⟨h, .nil⟩
  | cons hm _ ih =>
    obtain ⟨hnext, hkey⟩ := h.label hQ hm
    obtain ⟨hlast, hrows⟩ := ih hnext
    exact ⟨hlast, .cons ⟨hkey, hm⟩ hrows⟩

end Cursor.Alike

/-! ## The loops -/

/-- Whether two cursors over related queries read related records of every page, from worlds with
some property that reading leaves as it is. -/
structure PagesAlike (conn : Connection σ) (I : World σ → Prop) (exact : Prop)
    (Q : Query → Query → Prop) (R : Model → Model → Prop) (load load' : Loader σ) : Prop where
  queries : QueriesAlike Q R
  read : ∀ {c c' : Cursor}, Q c.query c'.query → ∀ {w w' : World σ}, I w → I w' →
    OutcomesAlike exact (fun page page' => page.1 = page'.1 ∧ List.Forall₂ R page.2 page'.2)
      (eval (c.readPage conn load) w).1 (eval (c'.readPage conn load') w').1
  keeps : ∀ c : Cursor, (c.readPage conn load).Keeps I
  keeps' : ∀ c : Cursor, (c.readPage conn load').Keeps I

namespace PagesAlike

variable {conn : Connection σ} {I : World σ → Prop} {exact : Prop} {load load' : Loader σ}
  {w w' : World σ} {records records' : RecordSet}

/-- Cursors that read related records do so also with what the records that one of them reads have in
common. -/
theorem and_right (h : PagesAlike conn I exact Q R load load') {P : Model → Prop}
    (hP : ∀ {c c' : Cursor}, Q c.query c'.query → ∀ {w : World σ}, I w → ∀ {page models},
      (eval (c'.readPage conn load') w).1 = .ok (page, models) → ∀ m ∈ models, P m) :
    PagesAlike conn I exact Q (fun m m' => P m' ∧ R m m') load load' where
  queries :=
    { moves := h.queries.moves
      perPage := h.queries.perPage
      key := fun hQ _ _ hm => h.queries.key hQ hm.2 }
  read := by
    intro c c' hQ w w' hw hw'
    have hread := h.read hQ hw hw'
    rcases hleft : (eval (c.readPage conn load) w).1 with e | ⟨page, models⟩ <;>
      rcases hright : (eval (c'.readPage conn load') w').1 with e' | ⟨page', models'⟩ <;>
      rw [hleft, hright] at hread
    · exact hread
    · exact hread
    · exact hread
    · have hall := hP hQ hw' hright
      exact ⟨hread.1, ((List.forall₂_and_left _ _).mpr ⟨hall, hread.2.flip⟩).flip⟩
  keeps := h.keeps
  keeps' := h.keeps'

/-- The loops over cursors in step end alike. -/
theorem drain (h : PagesAlike conn I exact Q R load load') (hc : c.Alike Q R c')
    (hrecords : records.Alike R records') (hw : I w) (hw' : I w') (budget : Nat) :
    OutcomesAlike exact (RecordSet.Alike R) (eval (c.drain conn load records budget) w).1
      (eval (c'.drain conn load' records' budget) w').1 := by
  induction budget generalizing c c' w w' records records' with
  | zero => exact fun _ => rfl
  | succ budget ih =>
    rw [Cursor.eval_drain_page, Cursor.eval_drain_page]
    -- Both hand out what they have in hand before they move.
    obtain ⟨hhanded, hrows⟩ := (hc.withBuffer .nil).labelAll h.queries hc.buffer
    have hmore := hrecords.insertAll hrows
    dsimp only
    obtain ⟨hnone, hnone'⟩ | ⟨asked, asked', hasked, hasked', hstep⟩ :=
      hhanded.advance? h.queries conn.config
    · rw [hnone, hnone']
      exact hmore
    rw [hasked, hasked']
    dsimp only
    have hread := h.read hstep.query hw hw'
    have hafter := h.keeps asked w hw
    have hafter' := h.keeps' asked' w' hw'
    generalize eval (asked.readPage conn load) w = outcome at hread hafter ⊢
    generalize eval (asked'.readPage conn load') w' = outcome' at hread hafter' ⊢
    obtain ⟨e | ⟨page, models⟩, after⟩ := outcome <;>
      obtain ⟨e' | ⟨page', models'⟩, after'⟩ := outcome'
    · exact hread
    · -- One run fails alone, so nothing is said of the other.
      exact OutcomesAlike.error_left hread _ _
    · exact OutcomesAlike.error_right hread _ _
    · obtain ⟨rfl, hmodels⟩ := hread
      obtain ⟨hnext, ⟨hnone, hnone'⟩ | ⟨kept, kept', hkept, hkept', hbuffer⟩⟩ :=
        (hstep.told page).deliver page hmodels
      · dsimp only
        rw [hnone, hnone']
        exact hmore
      · dsimp only
        rw [hkept, hkept']
        exact ih (hnext.withBuffer hbuffer) hmore hafter hafter'

/-- All records of two prepared queries are read alike, if their cursors start in step. -/
theorem allWith (h : PagesAlike conn I exact Q R load load') {q q' p p' : Query}
    (hp : q.prepare conn.catalog = .ok p) (hp' : q'.prepare conn.catalog = .ok p') (hQ : Q p p')
    (hlimit : p.limit = p'.limit) (hoffset : p.offset = p'.offset) (hw : I w) (hw' : I w') :
    OutcomesAlike exact (RecordSet.Alike R) (eval (conn.allWith load q) w).1
      (eval (conn.allWith load' q') w').1 := by
  rw [conn.allWith_eq_drain load hp, conn.allWith_eq_drain load' hp']
  have hstart : (Cursor.start p).Alike Q R (Cursor.start p') := by
    refine ⟨hQ, ?_, rfl, rfl, rfl, rfl, .nil⟩
    rw [Cursor.start, Cursor.start, hlimit, hoffset, h.queries.perPage hQ]
  have hempty : RecordSet.empty.Alike R .empty := .nil
  exact h.drain hstart hempty hw hw' conn.pageBudget

end PagesAlike

end

end RestQuery
