import RestQuery.Proofs.Query.One

/-!
# The rows that a store serves for given values

A store shows the rows for a compiled query page by page, and tells how many pages there are. All of
them together are the rows that meet the criteria which the store reads in the query
(`Store.served_eq`): neither the page size nor the order of the query matters.

For given values of some fields, these are the rows whose fields have the texts that the values are
sent as. A truth value or `null` is sent as another text than the one that the store compares with,
so no row is served for it that has it. `Query.served_values` says exactly when the rows that are
served are those that have the values.
-/

namespace RestQuery

open Text

/-- The stretches of a list of some length, one after another, are the start of the list. -/
theorem flatMap_stretches {α : Type} (items : List α) (size count : Nat) :
    (List.range count).flatMap (fun i => (items.drop (i * size)).take size) =
      items.take (count * size) := by
  induction count with
  | zero => rw [Nat.zero_mul, List.take_zero, List.range_zero, List.flatMap_nil]
  | succ count ih =>
    rw [List.range_succ, List.flatMap_append, ih, List.flatMap_singleton, Nat.succ_mul,
      List.take_add]

namespace Store

/-- The request for a page of a compiled query. -/
def pageRequest (d : Descriptor) (number : Nat) : Request :=
  ({ d with clauses := { d.clauses with page := some number } } : Descriptor).request .get

/-- The rows on all pages of a compiled query, as many as the first answer tells. -/
def served (s : Settings) (collections : KeyMap (List Json)) (d : Descriptor) : List Json :=
  let first := answerTo s collections (pageRequest d 1)
  (List.range ((Page.Info.ofResponse s.pageHeaders first).pageCount.getD 0)).flatMap fun i =>
    (answerTo s collections (pageRequest d (i + 1))).rows none

variable {s : Settings} {collections : KeyMap (List Json)} {rows : List Json} {d : Descriptor}

/-- The number of a page is read, and all pages have one size. -/
theorem read_pageRequest (s : Settings) (d : Descriptor) {number : Nat} (hpos : 1 ≤ number)
    (hword : number ≤ maxWord64) :
    pageFor (pageRequest d number) = number ∧
      s.pageSizeFor (pageRequest d number) = s.pageSizeFor (d.request .get) := by
  let clauses : Clauses := { d.clauses with page := some number }
  have hquery : (pageRequest d number).query = clauses.pairs := rfl
  have hplain : (d.request .get).query = d.clauses.pairs := rfl
  constructor
  · rw [Clauses.pageFor_eq hquery fun page hpage => by cases hpage; exact hword]
    exact Nat.max_eq_left hpos
  · unfold Settings.pageSizeFor
    rw [Clauses.queryValue?_perPage hquery, Clauses.queryValue?_perPage hplain]

/-- All pages together are the rows that meet the criteria of the query. -/
theorem served_eq (hrows : KeyMap.get? collections (collectionPath d.uri) = some rows)
    (hfields : d.clauses.fields = none) (hnames : s.pageHeaders.Distinct)
    (hsize : 1 ≤ s.pageSize) (hmax : 1 ≤ s.maxPageSize) (hmaxWord : s.maxPageSize ≤ maxWord64)
    (hcount : rows.length ≤ maxWord64) :
    served s collections d = matching rows d.clauses.pairs := by
  let found := matching rows d.clauses.pairs
  let size := s.pageSizeFor (d.request .get)
  have hpositive : 1 ≤ size := one_le_pageSizeFor hsize hmax (d.request .get)
  have hsizeWord : size ≤ maxWord64 := Nat.le_trans (Nat.min_le_right _ _) hmaxWord
  have hfound : found.length ≤ maxWord64 := Nat.le_trans (List.length_filter_le _ _) hcount
  have hlisted : ∀ number, answerTo s collections (pageRequest d number) =
      list s rows (pageRequest d number) := fun number => answerTo_collection rfl hrows
  have hmatching : ∀ number, matching rows (pageRequest d number).query = found := by
    intro number
    show matching rows ({ d.clauses with page := some number } : Clauses).pairs = _
    unfold found matching
    rw [Clauses.criteria_pairs, Clauses.criteria_pairs]
  have hpages : (Page.Info.ofResponse s.pageHeaders
      (answerTo s collections (pageRequest d 1))).pageCount =
        some ((found.length + size - 1) / size) := by
    obtain ⟨hnumber, hsame⟩ := read_pageRequest s d (Nat.le_refl 1) (by decide)
    rw [hlisted, info_list hnames (by rw [hmatching]; exact hfound) (by rw [hnumber]; decide)
      (by rw [hsame]; exact hsizeWord), hmatching, hsame]
  have hpage : ∀ i < (found.length + size - 1) / size,
      (answerTo s collections (pageRequest d (i + 1))).rows none =
        (found.drop (i * size)).take size := by
    intro i hi
    -- There are no more pages than rows, so the number of a page is read.
    have hword : i + 1 ≤ maxWord64 :=
      Nat.le_trans hi (Nat.le_trans (pageCount_le size found.length) hfound)
    obtain ⟨hnumber, hsame⟩ := read_pageRequest s d (Nat.le_add_left 1 i) hword
    have hall : (pageRequest d (i + 1)).queryValue? "fields" = none :=
      (Clauses.queryValue?_fields (c := { d.clauses with page := some (i + 1) }) rfl).trans hfields
    rw [hlisted, rows_list (by simp [pageRequest, Descriptor.request]) hall, hmatching, hnumber,
      hsame, Nat.add_sub_cancel]
  have hfilled : found.length ≤ (found.length + size - 1) / size * size := by
    by_contra hless
    exact absurd ((Page.lt_pageCount_iff hpositive _ found.length).mpr (by omega))
      (Nat.lt_irrefl _)
  unfold served
  dsimp only
  rw [hpages, Option.getD_some]
  calc (List.range ((found.length + size - 1) / size)).flatMap
        (fun i => (answerTo s collections (pageRequest d (i + 1))).rows none)
      = (List.range ((found.length + size - 1) / size)).flatMap
          (fun i => (found.drop (i * size)).take size) := by
        refine List.flatMap_congr fun i hi => hpage i (List.mem_range.mp hi)
    _ = found.take ((found.length + size - 1) / size * size) := flatMap_stretches found size _
    _ = found := List.take_of_length_le hfilled

end Store

/-! ## Given values -/

namespace Json

/-- Whether a value is spelled by a word that is no text: a truth value, or `null`. -/
def isKeyword : Json → Bool
  | .bool _ | .null => true
  | _ => false

/-- A value without parts is sent as the text that it is compared by, unless it is a truth value or
`null`. -/
theorem leafText_eq_keyText_iff {v : Json} (h : v.isLeaf) :
    Wire.leafText v = v.keyText ↔ v.isKeyword = false := by
  cases v with
  | null => exact iff_of_false (by decide) (by decide)
  | bool value => cases value <;> exact iff_of_false (by decide) (by decide)
  | number n => exact iff_of_true rfl rfl
  | text s => exact iff_of_true rfl rfl
  | list items => cases h
  | object members => cases h

end Json

namespace Query

/-- Whether the fields of a row have the texts of some values. -/
def asks (q : Query) (text : Json → String) (pairs : List (String × Json)) (row : Json) : Bool :=
  pairs.all fun (field, value) =>
    (row.member? field).map Json.keyText == some (text (q.valueOf value))

/-- A query for given values of some fields, over a store that serves rows which all have these
fields. -/
structure AsksValues (g : Catalog) (s : Store.Settings) (collections : KeyMap (List Json))
    (q : Query) (rows : List Json) (pairs : List (String × Json)) : Prop where
  /-- The pages have room for a row, and their sizes and numbers have 64 bits. -/
  pageHeaders : s.pageHeaders.Distinct
  size_pos : 1 ≤ s.pageSize
  maxSize_pos : 1 ≤ s.maxPageSize
  maxSize_le : s.maxPageSize ≤ maxWord64
  length_le : rows.length ≤ maxWord64
  served : KeyMap.get? collections (Store.collectionPath (trim q.resourceName)) = some rows
  /-- The query asks for rows with all their fields, and its relations are declared. -/
  prepared : ∃ p, q.prepare g = .ok p
  select : q.select = []
  condition : q.condition = some (.fields pairs)
  distinct : (pairs.map Prod.fst).Nodup
  unbroken : ∀ pair ∈ pairs, Unbroken pair.1
  values : ∀ pair ∈ pairs, (q.valueOf pair.2).isLeaf
  fields : ∀ row ∈ rows, ∀ pair ∈ pairs, ∃ value, row.member? pair.1 = some value

variable {g : Catalog} {s : Store.Settings} {collections : KeyMap (List Json)} {q : Query}
  {rows : List Json} {pairs : List (String × Json)}

/-- A row that has the texts that some values are sent as, and also the texts that these are
compared by, is asked for no truth value and no `null`. -/
theorem isKeyword_of_asks (hvalues : ∀ pair ∈ pairs, (q.valueOf pair.2).isLeaf) {row : Json}
    (hsent : q.asks Wire.leafText pairs row = true) (hhas : q.asks Json.keyText pairs row = true) :
    ∀ pair ∈ pairs, (q.valueOf pair.2).isKeyword = false := by
  intro pair hpair
  rw [← Json.leafText_eq_keyText_iff (hvalues pair hpair)]
  have hfirst := beq_iff_eq.mp (List.all_eq_true.mp hsent pair hpair)
  have hsecond := beq_iff_eq.mp (List.all_eq_true.mp hhas pair hpair)
  exact Option.some.inj (hfirst.symm.trans hsecond)

/-- Without truth values and `null`, a row has the texts that the values are sent as if it has those
that they are compared by. -/
theorem asks_congr (hvalues : ∀ pair ∈ pairs, (q.valueOf pair.2).isLeaf)
    (hplain : ∀ pair ∈ pairs, (q.valueOf pair.2).isKeyword = false) (row : Json) :
    q.asks Wire.leafText pairs row = q.asks Json.keyText pairs row := by
  unfold asks
  rw [Bool.eq_iff_iff, List.all_eq_true, List.all_eq_true]
  refine forall₂_congr fun pair hpair => ?_
  obtain ⟨field, value⟩ := pair
  dsimp only
  rw [(Json.leafText_eq_keyText_iff (hvalues (field, value) hpair)).mpr
    (hplain (field, value) hpair)]

/-- Where the rows that have the texts that the values are sent as are those that have the values,
and a truth value or `null` is asked for, there are none of either kind. -/
theorem not_asks_of_filter_eq (hvalues : ∀ pair ∈ pairs, (q.valueOf pair.2).isLeaf)
    (hkeyword : ¬ ∀ pair ∈ pairs, (q.valueOf pair.2).isKeyword = false)
    (hsame : rows.filter (q.asks Wire.leafText pairs) = rows.filter (q.asks Json.keyText pairs)) :
    ∀ row ∈ rows, q.asks Wire.leafText pairs row = false ∧
      q.asks Json.keyText pairs row = false := by
  intro row hrow
  -- A row of the one kind would be of the other kind too, which no row is.
  have hboth : ¬ (q.asks Wire.leafText pairs row = true ∧ q.asks Json.keyText pairs row = true) :=
    fun hboth => hkeyword (isKeyword_of_asks hvalues hboth.1 hboth.2)
  have hmem : row ∈ rows.filter (q.asks Wire.leafText pairs) ↔
      row ∈ rows.filter (q.asks Json.keyText pairs) := by rw [hsame]
  rw [List.mem_filter, List.mem_filter, and_iff_right hrow, and_iff_right hrow] at hmem
  have hkinds := Bool.eq_iff_iff.mpr hmem
  rw [← hkinds, and_self] at hboth ⊢
  exact Bool.not_eq_true _ ▸ hboth

namespace AsksValues

/-- The rows that meet the criteria of the compiled query are those whose fields have the texts that
the values are sent as. -/
theorem exists_matching (h : q.AsksValues g s collections rows pairs) (config : Config) :
    ∃ d, q.describe g config [] = .ok d ∧
      Store.matching rows d.clauses.pairs = rows.filter (q.asks Wire.leafText pairs) := by
  obtain ⟨p, hp⟩ := h.prepared
  obtain ⟨d, f, hd, hf, hfilter⟩ := exists_describe_of_fields hp h.condition h.values config
  have hcompiled : d.clauses.filter.getD [] = f := by
    rw [hfilter]
    split
    · rename_i hnone
      exact (List.isEmpty_iff.mp hnone).symm
    · rfl
  refine ⟨d, hd, List.filter_congr fun row hrow => ?_⟩
  rw [Clauses.criteria_pairs, hcompiled, Store.meetsAll_leaves hf h.distinct fun pair hpair =>
    ⟨h.unbroken pair hpair, h.values pair hpair⟩, asks, Bool.eq_iff_iff, List.all_eq_true,
    List.all_eq_true]
  refine forall₂_congr fun pair hpair => ?_
  obtain ⟨value, hvalue⟩ := h.fields row hrow pair hpair
  obtain ⟨field, asked⟩ := pair
  dsimp only at hvalue ⊢
  rw [Json.textAt, hvalue, Option.map_some, Option.getD_some, beq_iff_eq, beq_iff_eq,
    Option.some_inj]
  rfl

end AsksValues

/-- The rows that a store serves for given values, on all pages together, are in order those whose
fields have the texts that the values are sent as. They are those that have the values exactly if no
value is a truth value or `null`, or if there are neither rows of the one kind nor of the other. -/
theorem served_values (h : q.AsksValues g s collections rows pairs) (config : Config) :
    ∃ d, q.describe g config [] = .ok d ∧
      Store.served s collections d = rows.filter (q.asks Wire.leafText pairs) ∧
      (Store.served s collections d = rows.filter (q.asks Json.keyText pairs) ↔
        (∀ pair ∈ pairs, (q.valueOf pair.2).isKeyword = false) ∨
          ∀ row ∈ rows, q.asks Wire.leafText pairs row = false ∧
            q.asks Json.keyText pairs row = false) := by
  obtain ⟨d, hd, hmatching⟩ := h.exists_matching config
  obtain ⟨huri, hselect⟩ := of_describe hd
  have hfields : d.clauses.fields = none := by
    rw [hselect, h.select]
    rfl
  have hserved : Store.served s collections d = rows.filter (q.asks Wire.leafText pairs) := by
    rw [Store.served_eq (huri ▸ h.served) hfields h.pageHeaders h.size_pos h.maxSize_pos
      h.maxSize_le h.length_le, hmatching]
  refine ⟨d, hd, hserved, ?_⟩
  rw [hserved]
  constructor
  · intro hsame
    by_cases hplain : ∀ pair ∈ pairs, (q.valueOf pair.2).isKeyword = false
    · exact .inl hplain
    · exact .inr (not_asks_of_filter_eq h.values hplain hsame)
  · rintro (hplain | hnone)
    · exact List.filter_congr fun row _ => asks_congr h.values hplain row
    · rw [List.filter_eq_nil_iff.mpr fun row hrow => by simp [(hnone row hrow).1],
        List.filter_eq_nil_iff.mpr fun row hrow => by simp [(hnone row hrow).2]]

/-- A track that is live is not served where live tracks are asked for, and a track with a title is
served where its title is. -/
theorem served_values_live :
    let track (id : Nat) (title : String) (live : Bool) : Json :=
      .object [("id", .nat id), ("live", .bool live), ("title", .text title)]
    let rows := [track 1 "a" true, track 2 "b" false, track 3 "a" false]
    let asking (field : String) (value : Json) : Query :=
      { source := some "tracks", condition := some (.equals field value) }
    let s := ({} : Store.Settings).withPageSize 1
    let collections : KeyMap (List Json) := [("tracks", rows)]
    ((asking "live" (.bool true)).AsksValues [] s collections rows [("live", .bool true)] ∧
      (asking "title" (.text "a")).AsksValues [] s collections rows [("title", .text "a")]) ∧
      (∃ d, (asking "live" (.bool true)).describe [] {} [] = .ok d ∧
        Store.served s collections d = [] ∧ Store.served s collections d ≠
          rows.filter ((asking "live" (.bool true)).asks Json.keyText [("live", .bool true)])) ∧
      ∃ d, (asking "title" (.text "a")).describe [] {} [] = .ok d ∧
        Store.served s collections d = [track 1 "a" true, track 3 "a" false] := by
  intro track rows asking s collections
  have hasks : ∀ (field : String) (value : Json), Unbroken field →
      ((asking field value).valueOf value).isLeaf →
      KeyMap.get? collections (Store.collectionPath (trim (asking field value).resourceName)) =
        some rows → (∀ row ∈ rows, (row.member? field).isSome) →
      (asking field value).AsksValues [] s collections rows [(field, value)] := by
    intro field value hunbroken hvalue hserved hfields
    exact
      { pageHeaders := by decide +kernel, size_pos := by decide, maxSize_pos := by decide
        maxSize_le := by decide, length_le := by decide, served := hserved
        prepared := ⟨_, rfl⟩, select := rfl, condition := rfl, distinct := by simp
        unbroken := List.forall_mem_singleton.mpr hunbroken
        values := List.forall_mem_singleton.mpr hvalue
        fields := fun row hrow => List.forall_mem_singleton.mpr
          (Option.isSome_iff_exists.mp (hfields row hrow)) }
  have hlive := hasks "live" (.bool true) (by decide) rfl (by decide +kernel) (by decide +kernel)
  have htitle := hasks "title" (.text "a") (by decide) rfl (by decide +kernel) (by decide +kernel)
  obtain ⟨d, hd, hserved, hiff⟩ := served_values hlive {}
  obtain ⟨d', hd', hserved', -⟩ := served_values htitle {}
  refine ⟨⟨hlive, htitle⟩, ⟨d, hd, ?_, ?_⟩, d', hd', ?_⟩
  · rw [hserved]
    decide +kernel
  · rw [hserved]
    decide +kernel
  · rw [hserved']
    decide +kernel

end Query

end RestQuery
