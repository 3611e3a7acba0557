import RestQuery.Proofs.Page.Calls

/-!
# What is in a cursor's hands

A cursor may be asked for its pages or for its records (`Cursor.Call`). Asked for a record, it hands
one out of those in its hands (`run_nextRow_of_hand`), and asks for a page only where there is none
(`run_nextRow_of_page`). What it holds in its hands does not matter for the pages that it asks for,
and is left alone by them (`run_nextPage_holdingOnly`).
-/

namespace RestQuery

open Session

/-- What is asked of a cursor: its next page, or its next record. -/
inductive Cursor.Call where
  | page
  | row
  deriving DecidableEq

namespace Cursor

variable {σ : Type} {c : Cursor} {m : Model}

/-- The cursor with other records in hand, and another number for the next. -/
def holdingOnly (c : Cursor) (buffer : List Model) (nextIndex : Nat) : Cursor :=
  { c with buffer := buffer, nextIndex := nextIndex }

theorem holdingOnly_self (h : c.buffer = []) : c.holdingOnly [] c.nextIndex = c := by
  rw [← h]
  rfl

variable (buffer : List Model) (nextIndex : Nat)

/-- What a cursor has in hand does not matter for where it goes next. -/
theorem advance?_holdingOnly (config : Config) (c : Cursor) :
    (c.holdingOnly buffer nextIndex).advance? config =
      (c.advance? config).map (·.holdingOnly buffer nextIndex) := by
  unfold advance?
  rw [apply_ite (Option.map _), apply_ite (Option.map _), apply_ite (Option.map _), Option.map_map]
  rfl

/-- What a cursor has in hand does not matter for a page, and stays in hand. -/
theorem run_nextPage_holdingOnly (conn : Connection σ) (load : Loader σ) (c : Cursor)
    (w : World σ) :
    ((c.holdingOnly buffer nextIndex).nextPage conn load).run w =
      let called := (c.nextPage conn load).run w
      ((called.1.1.holdingOnly buffer nextIndex, called.1.2), called.2) := by
  rw [nextPage_eq, nextPage_eq, advance?_holdingOnly]
  cases c.advance? conn.config with
  | none => rfl
  | some asked =>
    dsimp only [Option.map_some]
    rw [run_read, run_read]
    have hfetch : (asked.holdingOnly buffer nextIndex).fetch conn = asked.fetch conn := rfl
    rw [hfetch]
    rcases eval (asked.fetch conn) w with ⟨e | response, w₁⟩
    · rfl
    · dsimp only
      have hquery : (asked.holdingOnly buffer nextIndex).query = asked.query := rfl
      rw [hquery]
      rcases eval (materialize conn load asked.query (response.rows conn.config.envelope)) w₁ with
        ⟨e | models, w₂⟩
      · rfl
      · rfl

/-- What a call for a record comes to that hands one out. -/
def handOut (c : Cursor) (m : Model) : Cursor × Except Error (Option (RowKey × Model)) :=
  ((c.label m).1, .ok (some ((c.label m).2, m)))

/-- Where a record is handed out, at most the number of the next changes. -/
theorem handOut_holdingOnly (c : Cursor) (m : Model) :
    ∃ nextIndex' key, (c.holdingOnly buffer nextIndex).handOut m =
      (c.holdingOnly buffer nextIndex', .ok (some (key, m))) := by
  unfold handOut label
  split
  · exact ⟨_, _, rfl⟩
  · exact ⟨_, _, rfl⟩

/-- A record in hand is handed out, and nothing else happens. -/
theorem run_nextRow_of_hand (conn : Connection σ) (load : Loader σ) {rest : List Model}
    (h : c.buffer = m :: rest) (w : World σ) :
    (c.nextRow conn load).run w = ((c.holdingOnly rest c.nextIndex).handOut m, w) := by
  rw [nextRow, takeBuffered?, h]
  rfl

/-- Without a record in hand, the next page is asked for, and its first record is handed out. -/
theorem run_nextRow_of_page (conn : Connection σ) (load : Loader σ) (h : c.buffer = [])
    (w : World σ) :
    (c.nextRow conn load).run w =
      match (c.nextPage conn load).run w with
      | ((d, .error e), w₁) => ((d, .error e), w₁)
      | ((d, .ok none), w₁) => ((d, .ok none), w₁)
      | ((d, .ok (some [])), w₁) => ((d, .ok none), w₁)
      | ((d, .ok (some (m :: rest))), w₁) =>
        ((d.holdingOnly rest d.nextIndex).handOut m, w₁) := by
  have hempty : c.takeBuffered? = none := by rw [takeBuffered?, h]
  rw [nextRow, hempty]
  dsimp only
  rw [run_bind]
  rcases (c.nextPage conn load).run w with ⟨⟨d, e | _ | _ | ⟨m, rest⟩⟩, w₁⟩ <;> rfl

end Cursor

namespace Connection

variable {σ : Type} {conn : Connection σ} {c : Cursor} {m : Model}

/-- What a call for a page does, and what it returns, does not depend on the records in hand. -/
theorem run_nextPage_holdingOnly (conn : Connection σ) (c : Cursor) (hand : List Model) (next : Nat)
    (w : World σ) :
    (conn.nextPage (c.holdingOnly hand next)).run w =
      ((((conn.nextPage c).run w).1.1.holdingOnly hand next, ((conn.nextPage c).run w).1.2),
        ((conn.nextPage c).run w).2) :=
  Cursor.run_nextPage_holdingOnly hand next conn (conn.loader c.query) c w

theorem run_nextRow_of_hand {rest : List Model} (h : c.buffer = m :: rest) (w : World σ) :
    (conn.nextRow c).run w = ((c.holdingOnly rest c.nextIndex).handOut m, w) :=
  Cursor.run_nextRow_of_hand conn (conn.loader c.query) h w

theorem run_nextRow_of_page (h : c.buffer = []) (w : World σ) :
    (conn.nextRow c).run w =
      match (conn.nextPage c).run w with
      | ((d, .error e), w₁) => ((d, .error e), w₁)
      | ((d, .ok none), w₁) => ((d, .ok none), w₁)
      | ((d, .ok (some [])), w₁) => ((d, .ok none), w₁)
      | ((d, .ok (some (m :: rest))), w₁) =>
        ((d.holdingOnly rest d.nextIndex).handOut m, w₁) :=
  Cursor.run_nextRow_of_page conn (conn.loader c.query) h w

end Connection

end RestQuery
