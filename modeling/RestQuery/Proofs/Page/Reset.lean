import RestQuery.Proofs.Connection.AsBefore
import RestQuery.Proofs.Page.Respects
import RestQuery.Proofs.Page.RowByRow

/-!
# Resetting a cursor

A cursor may be asked for pages and for records, in any order. `Connection.call` is one such call,
and `Connection.Used` relates a cursor to what becomes of it in calls, whatever worlds they meet and
whether or not they fail. No call touches more of the query than its window, nor the window that the
cursor started with (`frame_call`), so a reset brings the cursor back (`Used.reset_eq`). What it is
asked for then is answered as it was before, if the server answers as before
(`respects_callAll`, with `World.AsBefore`).
-/

namespace RestQuery

open Session

/-- What a call on a cursor returns. -/
inductive Cursor.Delivery where
  | page (models : Option (List Model))
  | row (keyed : Option (RowKey × Model))

/-- Where a record is handed out, the query and the limit are left alone. -/
theorem Cursor.label_frame (c : Cursor) (m : Model) :
    (c.label m).1.query = c.query ∧ (c.label m).1.initial = c.initial := by
  unfold label
  split
  · exact ⟨rfl, rfl⟩
  · exact ⟨rfl, rfl⟩

namespace Connection

variable {σ : Type} {conn : Connection σ} {q : Query} {c c' : Cursor} {w w' : World σ}

/-- One call on a cursor. -/
def call (conn : Connection σ) (c : Cursor) :
    Cursor.Call → StateM (World σ) (Cursor × Except Error Cursor.Delivery)
  | .page => do
    let (c, result) ← conn.nextPage c
    return (c, result.map .page)
  | .row => do
    let (c, result) ← conn.nextRow c
    return (c, result.map .row)

/-- Some calls on a cursor one after another, those that fail among them. -/
def callAll (conn : Connection σ) (c : Cursor) :
    List Cursor.Call → StateM (World σ) (Cursor × List (Except Error Cursor.Delivery))
  | [] => return (c, [])
  | call :: rest => do
    let (c, result) ← conn.call c call
    let (c, results) ← callAll conn c rest
    return (c, result :: results)

/-- What may become of a cursor in calls, whatever world each of them meets. -/
inductive Used (conn : Connection σ) (c : Cursor) : Cursor → Prop where
  | unused : Used conn c c
  | call {c' : Cursor} (h : Used conn c c') (call : Cursor.Call) (w : World σ) :
      Used conn c ((conn.call c' call).run w).1.1

/-! ## What a call leaves alone -/

/-- A call for a record leaves the limit alone, and moves the query to another of its pages at most.
-/
theorem frame_of_nextRow {outcome : Except Error (Option (RowKey × Model))}
    (h : (conn.nextRow c).run w = ((c', outcome), w')) :
    c'.query.IsPageOf c.query ∧ c'.initial = c.initial := by
  cases hhand : c.buffer with
  | cons m rest =>
    rw [run_nextRow_of_hand hhand] at h
    cases h
    exact ⟨.inl (Cursor.label_frame _ m).1, (Cursor.label_frame _ m).2⟩
  | nil =>
    rw [run_nextRow_of_page hhand] at h
    rcases hpage : (conn.nextPage c).run w with ⟨⟨d, e | _ | _ | ⟨m, rest⟩⟩, w₁⟩
    all_goals
      have hframe := frame_of_nextPage hpage
      rw [hpage] at h
      cases h
    · exact hframe
    · exact hframe
    · exact hframe
    · refine ⟨?_, (Cursor.label_frame _ m).2.trans hframe.2⟩
      show Query.IsPageOf (Cursor.label _ m).1.query c.query
      rw [(Cursor.label_frame _ m).1]
      exact hframe.1

/-- A call leaves the limit alone, and moves the query to another of its pages at most. -/
theorem frame_call (conn : Connection σ) (c : Cursor) (call : Cursor.Call) (w : World σ) :
    ((conn.call c call).run w).1.1.query.IsPageOf c.query ∧
      ((conn.call c call).run w).1.1.initial = c.initial := by
  cases call with
  | page => exact frame_of_nextPage (w := w) rfl
  | row => exact frame_of_nextRow (w := w) rfl

/-- However a cursor was used, its query is the one of before but for the page. -/
theorem Used.frame (h : conn.Used c c') :
    c'.query.IsPageOf c.query ∧ c'.initial = c.initial := by
  induction h with
  | unused => exact ⟨.inl rfl, rfl⟩
  | @call c' h call w ih =>
    obtain ⟨hquery, hinitial⟩ := frame_call conn c' call w
    exact ⟨hquery.trans ih.1, hinitial.trans ih.2⟩

/-- Calls one after another are among the uses of a cursor. -/
theorem Used.callAll (h : conn.Used c c') (calls : List Cursor.Call) (w : World σ) :
    conn.Used c ((conn.callAll c' calls).run w).1.1 := by
  induction calls generalizing c' w with
  | nil => exact h
  | cons call rest ih => exact ih (h.call call w) _

/-- A reset undoes what became of a new cursor. -/
theorem Used.reset_eq (h : conn.Used c c') (hc : conn.cursor q = .ok c) : c'.reset = c := by
  obtain ⟨hquery, hinitial⟩ := h.frame
  obtain ⟨p, -, rfl⟩ := map_eq_ok_iff.mp hc
  -- What a move to another page changes of the query is what the reset puts back.
  unfold Cursor.reset
  rw [hinitial]
  obtain hsame | ⟨size, offset, hmoved⟩ := hquery
  · rw [hsame]
  · rw [hmoved]
    rfl

/-! ## Calls in worlds that answer alike -/

variable {log log' : List Sent} {R : World σ → World σ → Prop}

/-- A page is asked for as before, and the response is the one of before. -/
theorem respects_fetch (conn : Connection σ) (c : Cursor) :
    Respects (World.Mirrors conn log log') (c.fetch conn).run :=
  ((respects_lift _).bind fun _ => respects_credentialHeaders.bind fun _ => respects_pure _).bind
    fun _ => respects_execute _

/-- A call respects what the requests for pages do. -/
theorem respects_call (hfetch : ∀ c : Cursor, Respects R (c.fetch conn).run) (c : Cursor)
    (call : Cursor.Call) : Respects R (conn.call c call) := by
  have hload : (conn.loader c.query).Respects R := loader_respects hfetch c.query
  cases call with
  | page => exact (Cursor.respects_nextPage hfetch hload c).andThen fun _ => respects_pure _
  | row => exact (Cursor.respects_nextRow hfetch hload c).andThen fun _ => respects_pure _

/-- So do some calls one after another. -/
theorem respects_callAll (hfetch : ∀ c : Cursor, Respects R (c.fetch conn).run)
    (calls : List Cursor.Call) : ∀ c, Respects R (conn.callAll c calls) := by
  induction calls with
  | nil => exact fun c => respects_pure _
  | cons call rest ih =>
    exact fun c => (respects_call hfetch c call).andThen fun (c', _) =>
      (ih c').andThen fun _ => respects_pure _

/-- However a cursor of a query was used, a reset leaves it as the query's new cursor. So any calls
that follow, in a world that answers as another one did, return what they return on a new cursor in
that one, and have the same requests sent. -/
theorem reset_undoes_use (hc : conn.cursor q = .ok c) (h : conn.Used c c') :
    conn.cursor q = .ok c'.reset ∧
      ∀ w v : World σ, w.AsBefore conn v → ∀ calls,
        ((conn.callAll c'.reset calls).run v).1 = ((conn.callAll c calls).run w).1 ∧
          ∃ more more', ((conn.callAll c calls).run w).2.sent = w.sent ++ more ∧
            ((conn.callAll c'.reset calls).run v).2.sent = v.sent ++ more' ∧
            more'.map Sent.request = more.map Sent.request := by
  have hreset : c'.reset = c := h.reset_eq hc
  rw [hreset]
  refine ⟨hc, fun w v hsame calls => ?_⟩
  obtain ⟨hresult, hafter⟩ := respects_callAll (respects_fetch conn) calls c w v hsame.mirrors
  exact ⟨hresult.symm, hafter.sent⟩

/-- A cursor that handed out one of two records, and then failed to read its second page. When it is
reset, some time has passed, and more requests were sent. -/
theorem reset_undoes_use_after_failure :
    let response : Response :=
      { status := 200
        headers := [("x-pagination-current-page", "1"), ("x-pagination-page-count", "2")]
        body := .list [.object [("id", .nat 7)], .object [("id", .nat 8)]] }
    let conn : Connection Nat :=
      { catalog := [], config := {}, auth := .none, pageBudget := 1
        answer := fun request n =>
          (if request.query = [] then .ok response else .error (.transport "connection reset"),
            n + 1) }
    let q : Query := { schema := some { typeName := "Track", fields := ["id"] } }
    let c : Cursor := { query := q, initial := ⟨none, none, none⟩ }
    let w : World Nat := { backend := 0 }
    let v : World Nat :=
      { backend := 3, clock := 5000, asked := 3
        sent := [⟨0, { method := .get, path := "tracks" }⟩] }
    let c' : Cursor := ((conn.callAll c [.row, .page]).run w).1.1
    conn.cursor q = .ok c ∧ conn.Used c c' ∧ w.AsBefore conn v ∧
      conn.cursor q = .ok c'.reset ∧
      ((conn.callAll c'.reset [.row, .row, .row]).run v).1 =
        ((conn.callAll c [.row, .row, .row]).run w).1 := by
  intro response conn q c w v c'
  have hc : conn.cursor q = .ok c := rfl
  have hused : conn.Used c c' := Used.unused.callAll [.row, .page] w
  -- What the server answers depends on the request alone, and no failure names a moment.
  have hanswers : ∀ requests n, conn.answers requests n =
      requests.map fun request => (conn.answer request 0).1 := by
    intro requests
    induction requests with
    | nil => exact fun n => rfl
    | cons request rest ih => exact fun n => congrArg (_ :: ·) (ih (n + 1))
  have hsame : w.AsBefore conn v :=
    { answers := fun requests => (hanswers requests _).trans (hanswers requests _).symm
      waits := by
        intro requests reply hreply e he passed retries waited
        rw [hanswers] at hreply
        obtain ⟨request, -, rfl⟩ := List.mem_map.mp hreply
        by_cases hquery : request.query = []
        · rw [show (conn.answer request 0).1 = .ok response from if_pos hquery] at he
          cases he
        · rw [show (conn.answer request 0).1 = .error (.transport "connection reset") from
            if_neg hquery] at he
          cases he
          exact Retry.Policy.nextWait?_of_refusal?_none rfl _
      headers := fun n => rfl
      cancelled := rfl
      timeLeft := rfl
      requestsLeft := rfl }
  obtain ⟨hnew, hruns⟩ := reset_undoes_use hc hused
  exact ⟨hc, hused, hsame, hnew, (hruns w v hsame _).1⟩

end Connection

end RestQuery
