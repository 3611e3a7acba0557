import RestQuery.Proofs.Model.Rows
import RestQuery.Proofs.Text.Digits
import RestQuery.Store

/-!
# What a store answers to a list request

A store lists one page of the rows that meet the criteria of a request, and tells in headers which
page that is. `check_list`, `rows_list` and `info_list` are the three parts of the answer as a
client reads them; `send_list` says that a collection is answered so.
-/

namespace RestQuery

/-- A header that was set is found under its name, whatever the case. -/
theorem Response.header?_withHeader (r : Response) (name value name' : String) :
    (r.withHeader name value).header? name' =
      if Text.lower name = Text.lower name' then some value else r.header? name' := by
  rw [header?, withHeader, KeyMap.get?_insert]
  rfl

/-- Names of headers that are told apart by a look-up. -/
def Page.HeaderNames.Distinct (names : Page.HeaderNames) : Prop :=
  ([names.totalCount, names.pageCount, names.currentPage, names.perPage].map Text.lower).Nodup

instance : DecidablePred Page.HeaderNames.Distinct :=
  fun _ => inferInstanceAs (Decidable (List.Nodup _))

/-- What is left of a row with declared fields is such a row. -/
theorem Schema.Declares.project {t : Schema} {row : Json} (h : t.Declares row)
    (fields : Option String) : t.Declares (Store.project fields row) := by
  obtain ⟨members, rfl, hmembers⟩ := h
  cases fields with
  | none => exact ⟨members, rfl, hmembers⟩
  | some fields => exact ⟨_, rfl, fun entry hentry => hmembers entry (List.mem_filter.mp hentry).1⟩

namespace Store

variable {s : Settings} {rows : List Json} {request : Request} {t : Schema}

/-- What is left of rows with declared fields is such rows. -/
theorem declares_of_mem_map_project (hdeclares : ∀ row ∈ rows, t.Declares row)
    (fields : Option String) : ∀ row ∈ rows.map (project fields), t.Declares row := by
  intro row hrow
  obtain ⟨whole, hwhole, rfl⟩ := List.mem_map.mp hrow
  exact (hdeclares whole hwhole).project fields

/-- The rows that a store lists for a request, on all pages together. -/
def matching (rows : List Json) (query : List (String × String)) : List Json :=
  rows.filter (meetsAll (criteria query))

/-- What matches is among the rows. -/
theorem mem_of_mem_matching {row : Json} {query : List (String × String)}
    (h : row ∈ matching rows query) : row ∈ rows := (List.mem_filter.mp h).1

/-- A list request succeeds. -/
theorem check_list (s : Settings) (rows : List Json) (request : Request) :
    (list s rows request).check = .ok (list s rows request) := rfl

/-- A row of which all fields are asked for is left as it is. -/
@[simp] theorem project_none (row : Json) : project none row = row := by
  cases row <;> rfl

/-- The rows of an answer are a page of the rows that match, with the fields that are asked for. -/
theorem rows_list_project (hmethod : request.method ≠ .head) (envelope : Option String) :
    (list s rows request).rows envelope =
      (((matching rows request.query).drop ((pageFor request - 1) * s.pageSizeFor request)).take
        (s.pageSizeFor request)).map (project (request.queryValue? "fields")) := by
  have hbody : (list s rows request).body =
      .list ((((matching rows request.query).drop
        ((pageFor request - 1) * s.pageSizeFor request)).take (s.pageSizeFor request)).map
          (project (request.queryValue? "fields"))) := by
    simp only [list, if_neg hmethod, Response.withHeader, matching]
  unfold Response.rows
  rw [hbody]
  -- A list has no member, so an envelope is not looked for in it.
  cases envelope <;> rfl

/-- Every row of an answer is what is left of a row that matches. -/
theorem exists_of_mem_list {envelope : Option String} {row : Json}
    (hmethod : request.method ≠ .head) (h : row ∈ (list s rows request).rows envelope) :
    ∃ whole ∈ matching rows request.query, row = project (request.queryValue? "fields") whole := by
  rw [rows_list_project hmethod] at h
  obtain ⟨whole, hwhole, rfl⟩ := List.mem_map.mp h
  exact ⟨whole, List.mem_of_mem_drop (List.mem_of_mem_take hwhole), rfl⟩

/-- Rows with declared fields are answered by such rows. -/
theorem declares_of_mem_list (hdeclares : ∀ row ∈ rows, t.Declares row)
    (hmethod : request.method ≠ .head) (envelope : Option String) :
    ∀ row ∈ (list s rows request).rows envelope, t.Declares row := by
  intro row hrow
  obtain ⟨whole, hwhole, rfl⟩ := exists_of_mem_list hmethod hrow
  exact (hdeclares whole (mem_of_mem_matching hwhole)).project _

/-- Unless only some fields are asked for, the rows of an answer are a page of the rows that
match. -/
theorem rows_list (hmethod : request.method ≠ .head) (hfields : request.queryValue? "fields" = none)
    (envelope : Option String) :
    (list s rows request).rows envelope =
      ((matching rows request.query).drop ((pageFor request - 1) * s.pageSizeFor request)).take
        (s.pageSizeFor request) := by
  have hproject : project none = id := funext project_none
  rw [rows_list_project hmethod, hfields, hproject, List.map_id]

/-- Records fill no more pages than there are records. -/
theorem pageCount_le (size count : Nat) : (count + size - 1) / size ≤ count := by
  rcases Nat.eq_zero_or_pos size with rfl | hsize
  · rw [Nat.div_zero]
    exact Nat.zero_le count
  · have hfilled : count ≤ count * size := Nat.le_mul_of_pos_right count hsize
    rw [← Nat.lt_succ_iff, Nat.div_lt_iff_lt_mul hsize, Nat.succ_mul]
    omega

/-- The headers of an answer tell the page, as far as the numbers have 64 bits. -/
theorem info_list (hnames : s.pageHeaders.Distinct)
    (hcount : (matching rows request.query).length ≤ Text.maxWord64)
    (hpage : pageFor request ≤ Text.maxWord64)
    (hsize : s.pageSizeFor request ≤ Text.maxWord64) :
    Page.Info.ofResponse s.pageHeaders (list s rows request) =
      { perPage := some (s.pageSizeFor request)
        currentPage := some (pageFor request)
        pageCount := some (((matching rows request.query).length + s.pageSizeFor request - 1) /
          s.pageSizeFor request)
        totalCount := some (matching rows request.query).length } := by
  have hpages : ((matching rows request.query).length + s.pageSizeFor request - 1) /
      s.pageSizeFor request ≤ Text.maxWord64 := Nat.le_trans (pageCount_le _ _) hcount
  have hread : ∀ {n : Nat}, n ≤ Text.maxWord64 →
      Text.nat? Text.maxWord64 (Text.trim (toString n)) = some n := by
    intro n hn
    rw [Text.trim_toString, Text.nat?_toString hn]
  simp only [Page.HeaderNames.Distinct, List.map_cons, List.map_nil, List.nodup_cons,
    List.mem_cons, List.not_mem_nil, or_false, not_or, ← ne_eq] at hnames
  obtain ⟨⟨htotalCount, htotalCurrent, htotalSize⟩, ⟨hcountCurrent, hcountSize⟩, hcurrentSize, -⟩ :=
    hnames
  unfold matching at *
  -- Each header is found behind those that were set after it.
  simp only [Page.Info.ofResponse, list, Response.header?_withHeader, if_true,
    if_neg htotalCount.symm, if_neg htotalCurrent.symm, if_neg htotalSize.symm,
    if_neg hcountCurrent.symm, if_neg hcountSize.symm, if_neg hcurrentSize.symm]
  simp only [Option.bind_some, hread hcount, hread hpages, hread hpage, hread hsize]

/-- A store without queued replies lists the rows of a collection that is read. -/
theorem send_list {st : Store} (hqueued : st.queued = [])
    (hrows : KeyMap.get? st.collections (collectionPath request.path) = some rows)
    (hmethod : request.method = .get) :
    send s request st =
      (.ok (list s rows request), { st with requests := st.requests ++ [request] }) := by
  simp only [send, hqueued, handle, hrows, onCollection, hmethod]

end Store

end RestQuery
