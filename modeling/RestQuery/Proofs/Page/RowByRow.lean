import RestQuery.Proofs.Page.Hand

/-!
# Records one by one

A cursor may be asked for its pages or for its records. Asked for a record, it hands one out of
those in its hands, and asks for a page only where there is none (`nextRow_eq_some`,
`nextRow_eq_end`). What it holds in its hands does not matter for the pages that it asks for
(`run_nextPage_holdingOnly`). So the two ways of reading go side by side: the records handed out and
those in hand are those of the pages read so far, and the world is the same
(`Yields.pages_of_rows`, `Yields.rows_of_pages`). `rows_agree_with_pages` draws the conclusion for
runs from a new cursor, and says under which keys the records come.
-/

namespace RestQuery

open Session

/-- The key under which a query reads its record with a given number: the one that it asks for, else
the number. -/
def Query.keyAt (q : Query) (number : Nat) (m : Model) : RowKey :=
  match q.index with
  | some i => .named (i.key m)
  | none => .index number

/-- Some records under the keys under which a query reads them, if it reads no others before. -/
def Query.keyed (q : Query) (models : List Model) : List (RowKey × Model) :=
  models.mapIdx fun number m => (q.keyAt number m, m)

namespace Connection

variable {σ α : Type} {conn : Connection σ} {c c' d d' : Cursor} {w w' w'' : World σ} {m : Model}
  {key : RowKey} {models : List Model} {ending : Except Error Unit}

/-! ## One call -/

/-- A page that is returned has a record. -/
theorem ne_nil_of_nextPage (h : (conn.nextPage c).run w = ((c', .ok (some models)), w')) :
    models ≠ [] := by
  rintro rfl
  obtain ⟨-, -, hnone, -⟩ | ⟨asked, response, read, w₁, -, -, -, hdeliver⟩ := nextPage_cases h
  · cases hnone
  · have hkept : (if ((asked.told conn response).keep read).isEmpty then none
        else some ((asked.told conn response).keep read)) = some [] := congrArg Prod.snd hdeliver
    split at hkept
    · cases hkept
    · rename_i hsome
      exact hsome (List.isEmpty_iff.mpr (Option.some.inj hkept))

/-- A record comes out of the hands, or it is the first of the next page if there was none. -/
theorem nextRow_eq_some (h : (conn.nextRow c).run w = ((c', .ok (some (key, m))), w')) :
    ∃ d rest, (d.holdingOnly rest d.nextIndex).handOut m = (c', .ok (some (key, m))) ∧
      ((c.buffer = m :: rest ∧ d = c ∧ w' = w) ∨
        (c.buffer = [] ∧ (conn.nextPage c).run w = ((d, .ok (some (m :: rest))), w'))) := by
  cases hhand : c.buffer with
  | cons first rest =>
    rw [run_nextRow_of_hand hhand] at h
    cases h
    exact ⟨c, rest, rfl, .inl ⟨rfl, rfl, rfl⟩⟩
  | nil =>
    rw [run_nextRow_of_page hhand] at h
    split at h
    · cases h
    · cases h
    · cases h
    · rename_i d first rest w₁ hpage
      cases h
      exact ⟨d, rest, rfl, .inr ⟨rfl, hpage⟩⟩

/-- A call for a page leaves the number of the next record alone. -/
theorem nextIndex_of_nextPage {result : Except Error (Option (List Model))}
    (h : (conn.nextPage c).run w = ((c', result), w')) : c'.nextIndex = c.nextIndex := by
  have hself : c.holdingOnly c.buffer c.nextIndex = c := rfl
  have hrun := run_nextPage_holdingOnly conn c c.buffer c.nextIndex w
  rw [hself, h] at hrun
  exact congrArg (fun ran => ran.1.1.nextIndex) hrun

/-- A record comes under the key that the query has for the number of the next record, which is
counted on where the query asks for no key. -/
theorem key_of_nextRow (h : (conn.nextRow c).run w = ((c', .ok (some (key, m))), w')) :
    key = c.query.keyAt c.nextIndex m ∧ c'.query.index = c.query.index ∧
      (c.query.index = none → c'.nextIndex = c.nextIndex + 1) := by
  obtain ⟨d, rest, hout, hfrom⟩ := nextRow_eq_some h
  have hd : d.query.index = c.query.index ∧ d.nextIndex = c.nextIndex := by
    obtain ⟨-, rfl, -⟩ | ⟨-, hpage⟩ := hfrom
    · exact ⟨rfl, rfl⟩
    · exact ⟨(frame_of_nextPage hpage).1.reads.2.2.1, nextIndex_of_nextPage hpage⟩
  rw [Query.keyAt, ← hd.1, ← hd.2]
  have hheld : (d.holdingOnly rest d.nextIndex).query.index = d.query.index := rfl
  unfold Cursor.handOut Cursor.label at hout
  rw [hheld] at hout
  cases hindex : d.query.index with
  | some i =>
    rw [hindex] at hout
    cases hout
    exact ⟨rfl, hindex, nofun⟩
  | none =>
    rw [hindex] at hout
    cases hout
    exact ⟨rfl, hindex, fun _ => rfl⟩

/-- There is no record to return where none is in hand and there is no next page. -/
theorem nextRow_eq_end : (conn.nextRow c).run w = ((c', ending.map fun _ => none), w') ↔
    c.buffer = [] ∧ (conn.nextPage c).run w = ((c', ending.map fun _ => none), w') := by
  cases hhand : c.buffer with
  | cons first rest =>
    rw [run_nextRow_of_hand hhand]
    cases ending <;> exact ⟨nofun, fun h => nomatch h.1⟩
  | nil =>
    rw [run_nextRow_of_page hhand, and_iff_right rfl]
    rcases hpage : (conn.nextPage c).run w with ⟨⟨d, e | _ | models⟩, w₁⟩
    · cases ending <;> constructor <;> intro h <;> cases h <;> rfl
    · cases ending <;> constructor <;> intro h <;> cases h <;> rfl
    · obtain ⟨first, rest, rfl⟩ := List.exists_cons_of_ne_nil (ne_nil_of_nextPage hpage)
      cases ending <;> constructor <;> intro h <;> cases h

/-! ## Runs -/

/-- Calls of one kind over a cursor, made from a world one after another, each of which returns
something: what they return, and the cursor and the world after them. -/
inductive Yields (call : Cursor → StateM (World σ) (Cursor × Except Error (Option α)))
    (c : Cursor) (w : World σ) : List α → Cursor → World σ → Prop where
  | nil : Yields call c w [] c w
  | call {items : List α} {item : α} {c' c'' : Cursor} {w' w'' : World σ}
      (h : Yields call c w items c' w') (hcall : (call c').run w' = ((c'', .ok (some item)), w'')) :
      Yields call c w (items ++ [item]) c'' w''

/-- Calls of one kind up to the first that returns nothing, be it that there is nothing left or that
the call fails: what the calls before it return, how it ends, and the cursor and the world after
it. -/
def Concludes (call : Cursor → StateM (World σ) (Cursor × Except Error (Option α))) (c : Cursor)
    (w : World σ) (items : List α) (ending : Except Error Unit) (c'' : Cursor)
    (w'' : World σ) : Prop :=
  ∃ c' w', Yields call c w items c' w' ∧ (call c').run w' = ((c'', ending.map fun _ => none), w'')

namespace Yields

variable {call : Cursor → StateM (World σ) (Cursor × Except Error (Option α))}
  {items items' : List α} {pages : List (List Model)} {rows : List (RowKey × Model)}

theorem trans (h : Yields call c w items c' w') (h' : Yields call c' w' items' d w'') :
    Yields call c w (items ++ items') d w'' := by
  induction h' with
  | nil => rwa [List.append_nil]
  | call _ hcall ih =>
    rw [← List.append_assoc]
    exact .call ih hcall

/-- The records handed out, and those in hand, are those of some pages. -/
theorem pages_of_rows (h : Yields conn.nextRow c w rows d w') (hbuffer : c.buffer = []) :
    ∃ pages c' next hand, Yields conn.nextPage c w pages c' w' ∧ d = c'.holdingOnly hand next ∧
      pages.flatten = rows.map Prod.snd ++ hand := by
  induction h with
  | nil => exact ⟨[], c, c.nextIndex, [], .nil, (Cursor.holdingOnly_self hbuffer).symm, rfl⟩
  | @call rows row d d' w₁ w₂ h hcall ih =>
    obtain ⟨pages, c', next, hand, hpages, rfl, hflat⟩ := ih
    obtain ⟨key, m⟩ := row
    obtain ⟨e, rest, hout, ⟨hhand, rfl, rfl⟩ | ⟨hhand, hpage⟩⟩ := nextRow_eq_some hcall
    · -- The record was in hand.
      obtain ⟨next', key', hnext⟩ := Cursor.handOut_holdingOnly rest next c' m
      obtain rfl : hand = m :: rest := hhand
      obtain ⟨rfl, -⟩ := Prod.mk.inj (hout.symm.trans hnext)
      refine ⟨pages, c', next', rest, hpages, rfl, ?_⟩
      rw [hflat, List.map_append, List.append_assoc]
      rfl
    · -- The record is the first of the next page.
      obtain rfl : hand = [] := hhand
      rw [run_nextPage_holdingOnly] at hpage
      obtain ⟨hresult, hworld⟩ := Prod.mk.inj hpage
      obtain ⟨hcursor, hmodels⟩ := Prod.mk.inj hresult
      obtain ⟨next', key', hnext⟩ :=
        Cursor.handOut_holdingOnly rest next ((conn.nextPage c').run w₁).1.1 m
      rw [← hcursor] at hout
      obtain ⟨rfl, -⟩ := Prod.mk.inj (hout.symm.trans hnext)
      refine ⟨pages ++ [m :: rest], _, next', rest, .call hpages ?_, rfl, ?_⟩
      · rw [← hworld, ← hmodels]
        rfl
      · rw [List.flatten_append, List.flatten_singleton, hflat, List.append_nil, List.map_append,
          List.append_assoc]
        rfl

/-- The records in hand are handed out one after another, and nothing else happens. -/
theorem hand_out (conn : Connection σ) (c : Cursor) (next : Nat) (hand : List Model)
    (w : World σ) :
    ∃ rows next', Yields conn.nextRow (c.holdingOnly hand next) w rows (c.holdingOnly [] next') w ∧
      rows.map Prod.snd = hand := by
  induction hand generalizing next with
  | nil => exact ⟨[], next, .nil, rfl⟩
  | cons m rest ih =>
    obtain ⟨next₁, key, hout⟩ := Cursor.handOut_holdingOnly rest next c m
    obtain ⟨rows, next', hrows, hmodels⟩ := ih next₁
    have hcall : (conn.nextRow (c.holdingOnly (m :: rest) next)).run w =
        ((c.holdingOnly rest next₁, .ok (some (key, m))), w) := by
      rw [run_nextRow_of_hand (c := c.holdingOnly (m :: rest) next) rfl, ← hout]
      rfl
    exact ⟨(key, m) :: rows, next', trans (.call .nil hcall) hrows, congrArg _ hmodels⟩

/-- The records of some pages are handed out one after another. -/
theorem rows_of_pages (h : Yields conn.nextPage c w pages c' w') (hbuffer : c.buffer = []) :
    ∃ rows next, Yields conn.nextRow c w rows (c'.holdingOnly [] next) w' ∧
      rows.map Prod.snd = pages.flatten := by
  induction h with
  | nil => exact ⟨[], c.nextIndex, (Cursor.holdingOnly_self hbuffer).symm ▸ .nil, rfl⟩
  | @call pages models c₁ c₂ w₁ w₂ h hcall ih =>
    obtain ⟨rows, next, hrows, hmodels⟩ := ih
    obtain ⟨m, rest, rfl⟩ := List.exists_cons_of_ne_nil (ne_nil_of_nextPage hcall)
    obtain ⟨next₁, key, hout⟩ := Cursor.handOut_holdingOnly rest next c₂ m
    obtain ⟨others, next', hothers, hrest⟩ := hand_out conn c₂ next₁ rest w₂
    have hfirst : (conn.nextRow (c₁.holdingOnly [] next)).run w₁ =
        ((c₂.holdingOnly rest next₁, .ok (some (key, m))), w₂) := by
      rw [run_nextRow_of_page rfl, run_nextPage_holdingOnly, hcall, ← hout]
      rfl
    refine ⟨rows ++ [(key, m)] ++ others, next', trans (.call hrows hfirst) hothers, ?_⟩
    rw [List.map_append, List.map_append, hmodels, hrest, List.flatten_append,
      List.flatten_singleton, List.append_assoc]
    rfl

/-- The records are handed out under the keys of the query. -/
theorem keyed (h : Yields conn.nextRow c w rows d w') (hnext : c.nextIndex = 0) :
    rows = c.query.keyed (rows.map Prod.snd) ∧ d.query.index = c.query.index ∧
      (c.query.index = none → d.nextIndex = rows.length) := by
  induction h with
  | nil => exact ⟨rfl, rfl, fun _ => hnext⟩
  | @call rows row d d' w₁ w₂ h hcall ih =>
    obtain ⟨hrows, hindex, hcount⟩ := ih
    obtain ⟨key, m⟩ := row
    obtain ⟨hkey, hindex', hcount'⟩ := key_of_nextRow hcall
    have hplace : d.query.keyAt d.nextIndex m = c.query.keyAt rows.length m := by
      unfold Query.keyAt
      rw [hindex]
      cases hnone : c.query.index with
      | some i => rfl
      | none => exact congrArg RowKey.index (hcount hnone)
    refine ⟨?_, hindex'.trans hindex, fun hnone => ?_⟩
    · rw [Query.keyed, List.map_append, List.map_singleton, List.mapIdx_concat, List.length_map,
        hkey, hplace]
      exact congrArg (· ++ _) hrows
    · rw [hcount' (hindex.trans hnone), hcount hnone, List.length_append, List.length_singleton]

end Yields

/-- How reading a query record by record compares with reading it page by page, over a cursor from a
world. As the worlds agree, so do the requests that were sent. -/
structure RowsAgree (conn : Connection σ) (q : Query) (c : Cursor) (w : World σ) : Prop where
  /-- The records come under the keys that the query asks for, else under their numbers. -/
  keyed : ∀ {rows c' w'}, Yields conn.nextRow c w rows c' w' → rows = q.keyed (rows.map Prod.snd)
  /-- If one of the two comes to an end, so does the other, in the same way and after the same
  records. -/
  concludes_iff : ∀ {models ending w'},
    (∃ rows c', Concludes conn.nextRow c w rows ending c' w' ∧ rows.map Prod.snd = models) ↔
      ∃ pages c', Concludes conn.nextPage c w pages ending c' w' ∧ pages.flatten = models
  /-- After any number of records, these are the first of as many pages as were asked for. -/
  rows : ∀ {rows c' w'}, Yields conn.nextRow c w rows c' w' →
    ∃ pages c'', Yields conn.nextPage c w pages c'' w' ∧ rows.map Prod.snd <+: pages.flatten
  /-- The records of any number of pages are handed out without a further request. -/
  pages : ∀ {pages c' w'}, Yields conn.nextPage c w pages c' w' →
    ∃ rows c'', Yields conn.nextRow c w rows c'' w' ∧ rows.map Prod.snd = pages.flatten

/-- A run record by record from a cursor with empty hands ends where one page by page does. -/
theorem concludes_iff (hbuffer : c.buffer = []) {models : List Model} :
    (∃ rows d, Concludes conn.nextRow c w rows ending d w' ∧ rows.map Prod.snd = models) ↔
      ∃ pages d, Concludes conn.nextPage c w pages ending d w' ∧ pages.flatten = models := by
  constructor
  · rintro ⟨rows, d, ⟨e, w₁, hrows, hend⟩, rfl⟩
    obtain ⟨hhand, hpage⟩ := nextRow_eq_end.mp hend
    obtain ⟨pages, c', next, hand, hpages, rfl, hflat⟩ := hrows.pages_of_rows hbuffer
    obtain rfl : hand = [] := hhand
    rw [run_nextPage_holdingOnly] at hpage
    obtain ⟨hresult, hworld⟩ := Prod.mk.inj hpage
    refine ⟨pages, ((conn.nextPage c').run w₁).1.1, ⟨c', w₁, hpages, ?_⟩, ?_⟩
    · rw [← hworld, ← (Prod.mk.inj hresult).2]
      rfl
    · rw [hflat, List.append_nil]
  · rintro ⟨pages, d, ⟨c', w₁, hpages, hend⟩, rfl⟩
    obtain ⟨rows, next, hrows, hmodels⟩ := hpages.rows_of_pages hbuffer
    refine ⟨rows, d.holdingOnly [] next, ⟨c'.holdingOnly [] next, w₁, hrows, ?_⟩, hmodels⟩
    exact nextRow_eq_end.mpr ⟨rfl, by rw [run_nextPage_holdingOnly, hend]⟩

/-- Reading a query record by record agrees with reading it page by page, whatever the backend
answers. -/
theorem rows_agree_with_pages {q : Query} (hc : conn.cursor q = .ok c) (w : World σ) :
    RowsAgree conn q c w := by
  obtain ⟨prepared, hprepared, rfl⟩ := map_eq_ok_iff.mp hc
  have hindex : prepared.index = q.index := (Query.reads_of_prepare hprepared).2.1
  have hkeyed : prepared.keyed = q.keyed := by
    unfold Query.keyed Query.keyAt
    rw [hindex]
  refine ⟨fun h => hkeyed ▸ (h.keyed rfl).1, concludes_iff rfl, fun h => ?_, fun h => ?_⟩
  · obtain ⟨pages, c', next, hand, hpages, -, hflat⟩ := h.pages_of_rows rfl
    exact ⟨pages, c', hpages, hand, hflat.symm⟩
  · obtain ⟨rows, next, hrows, hmodels⟩ := h.rows_of_pages rfl
    exact ⟨rows, _, hrows, hmodels⟩

/-- A server that answers one page of two records, and then no more. -/
theorem rows_agree_with_pages_interrupted :
    let response : Response :=
      { status := 200
        headers := [("x-pagination-current-page", "1"), ("x-pagination-page-count", "2")]
        body := .list [.object [("id", .nat 7)], .object [("id", .nat 8)]] }
    let conn : Connection Nat :=
      { catalog := [], config := {}, auth := .none, pageBudget := 1
        answer := fun _ n =>
          (if n = 0 then .ok response else .error (.transport "connection reset"), n + 1) }
    let q : Query := { schema := some { typeName := "Track", fields := ["id"] } }
    let c : Cursor := { query := q, initial := ⟨none, none, none⟩ }
    let w : World Nat := { backend := 0 }
    conn.cursor q = .ok c ∧ RowsAgree conn q c w := by
  intro response conn q c w
  have hc : conn.cursor q = .ok c := rfl
  exact ⟨hc, rows_agree_with_pages hc w⟩

end Connection

end RestQuery
