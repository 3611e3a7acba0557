import RestQuery.Page.Cursor

/-!
# What a cursor delivers of a page

The records that a query reads are those of a window: from its offset on, and at most as many as its
limit. A cursor that is delivered all pages of one size that lie in the window delivers the window:
of each page it keeps what lies in it (`deliver_page`), and it ends with the page after which
nothing of the window is left.
-/

namespace RestQuery

/-- The stretch of a list that a query reads. -/
def Query.window {α : Type} (q : Query) (rows : List α) : List α :=
  match q.limit with
  | some limit => (rows.drop (q.offset.getD 0)).take limit
  | none => rows.drop (q.offset.getD 0)

/-- What a server tells of a page of a query, with so many pages before it from the offset on. -/
def Query.pageInfo (q : Query) (size i count : Nat) : Page.Info where
  perPage := some size
  currentPage := some (q.offset.getD 0 / size + i + 1)
  pageCount := some ((count + size - 1) / size)
  totalCount := some count

namespace Page

/-- There are more pages than so many exactly if these do not hold all records. -/
theorem lt_pageCount_iff {size : Nat} (hsize : 0 < size) (pages count : Nat) :
    pages < (count + size - 1) / size ↔ pages * size < count := by
  rw [← Nat.succ_le_iff, Nat.le_div_iff_mul_le hsize, Nat.succ_mul]
  omega

end Page

/-- The pages before the offset fill it. -/
theorem Query.page_mul {q : Query} {size : Nat} (hoffset : size ∣ q.offset.getD 0) (k : Nat) :
    (q.offset.getD 0 / size + k) * size = q.offset.getD 0 + k * size := by
  rw [Nat.add_mul, Nat.div_mul_cancel hoffset]

/-- Where records lie behind a page, the next one starts behind it. -/
theorem Query.nextOffset?_pageInfo {q : Query} {size count : Nat} (hsize : 0 < size)
    (hoffset : size ∣ q.offset.getD 0) (hcount : count ≤ Text.maxWord64) {i : Nat}
    (hmore : q.offset.getD 0 + (i + 1) * size < count) :
    (q.pageInfo size i count).nextOffset? = some (q.offset.getD 0 + (i + 1) * size) := by
  have hstart : (q.offset.getD 0 / size + i + 1) * size = q.offset.getD 0 + (i + 1) * size :=
    page_mul hoffset (i + 1)
  have hhasMore : (q.pageInfo size i count).hasMore = true := by
    simp only [Query.pageInfo, Page.Info.hasMore, decide_eq_true_eq, Page.lt_pageCount_iff hsize,
      hstart]
    exact hmore
  have hword : (q.offset.getD 0 / size + i + 1) * size ≤ Text.maxWord64 := by
    rw [hstart]
    omega
  rw [Page.Info.nextOffset?, if_pos hhasMore, ← hstart]
  exact if_pos hword

/-- As many records lie in the window as there are behind the offset, up to the limit. -/
theorem Query.length_window {α : Type} (q : Query) (rows : List α) :
    (q.window rows).length =
      min (q.limit.getD (rows.length - q.offset.getD 0)) (rows.length - q.offset.getD 0) := by
  unfold Query.window
  cases q.limit with
  | none => simp only [List.length_drop, Option.getD_none, Nat.min_self]
  | some limit => simp only [List.length_take, List.length_drop, Option.getD_some]

namespace Cursor

variable {q : Query} {c : Cursor} {size i : Nat} {all : List Model}

/-- Of a page, what lies in the window is kept. -/
theorem keep_eq (hlimit : c.initial.limit = q.limit) (hfetched : c.fetched = i * size) :
    c.keep ((all.drop (q.offset.getD 0 + i * size)).take size) =
      ((q.window all).drop (i * size)).take size := by
  unfold keep Query.window
  rw [hlimit, hfetched]
  cases q.limit with
  | none => simp only [List.drop_drop]
  | some limit => simp only [List.drop_take, List.drop_drop, List.take_take, Nat.min_comm]

/-- What is left of the window is a page with records unless all was delivered. -/
theorem isEmpty_rest (hsize : 0 < size) (window : List Model) :
    ((window.drop (i * size)).take size).isEmpty = true ↔ window.length ≤ i * size := by
  rw [List.isEmpty_iff_length_eq_zero, List.length_take, List.length_drop]
  omega

/-- A page is the last exactly if nothing of the window lies behind it. -/
theorem isLast_iff (hsize : 0 < size) (hoffset : size ∣ q.offset.getD 0)
    (hlimit : c.initial.limit = q.limit) (hfetched : c.fetched = i * size)
    (hbelow : ∀ limit, q.limit = some limit → i * size < limit) :
    c.isLast (q.pageInfo size i all.length)
        ((all.drop (q.offset.getD 0 + i * size)).take size) = true ↔
      (q.window all).length ≤ (i + 1) * size := by
  have hstart : (q.offset.getD 0 / size + i + 1) * size = q.offset.getD 0 + i * size + size := by
    rw [Nat.succ_mul, Query.page_mul hoffset]
  unfold isLast
  rw [Bool.or_eq_true, Bool.or_eq_true, Bool.not_eq_true', ← Bool.not_eq_true,
    keep_eq hlimit hfetched, isEmpty_rest hsize]
  simp only [Query.pageInfo, Page.Info.hasMore, decide_eq_true_eq, Page.lt_pageCount_iff hsize,
    hstart]
  rw [hlimit, hfetched, Query.length_window, Nat.succ_mul]
  cases hq : q.limit with
  | none =>
    simp only [Option.any_none, Option.getD_none, Bool.false_eq_true, false_or]
    omega
  | some limit =>
    have hbelow := hbelow limit hq
    simp only [Option.any_some, Option.getD_some, List.length_take, List.length_drop,
      decide_eq_true_eq]
    omega

/-- A cursor that is delivered a page delivers what of it lies in the window, if there is any, and
ends with it exactly if nothing of the window lies behind it. -/
theorem deliver_page (hsize : 0 < size) (hoffset : size ∣ q.offset.getD 0)
    (hlimit : c.initial.limit = q.limit) (hfetched : c.fetched = i * size)
    (hbelow : ∀ limit, q.limit = some limit → i * size < limit) :
    c.deliver (q.pageInfo size i all.length)
        ((all.drop (q.offset.getD 0 + i * size)).take size) =
      ({ c with
          fetched := i * size + (((q.window all).drop (i * size)).take size).length
          state := if (q.window all).length ≤ (i + 1) * size then .exhausted else c.state },
        if (q.window all).length ≤ i * size then none
        else some (((q.window all).drop (i * size)).take size)) := by
  unfold deliver
  simp only [keep_eq hlimit hfetched, isLast_iff hsize hoffset hlimit hfetched hbelow,
    isEmpty_rest hsize]
  rw [hfetched]

end Cursor

end RestQuery
