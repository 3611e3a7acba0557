import RestQuery.Proofs.Text.Digits
import RestQuery.Proofs.Text.Pieces
import RestQuery.Query.Request
import RestQuery.Store

/-!
# What a store reads in the pairs of a query

The clauses of a query are sent as pairs, and a store looks the page, the page size and the fields
up by their names, and the criteria by the form of their keys. The names are told apart from the
keys of the filter, which all start alike (`key_of_mem_filterPairs`), so each clause is found and
none stands in the place of another.
-/

namespace RestQuery

namespace Wire

/-- A leaf stands under its own key. -/
theorem key_of_mem_leaf {key text : String} {pair : String × String} (h : pair ∈ [(key, text)]) :
    ∃ rest, pair.1 = key ++ rest := by
  rw [List.mem_singleton] at h
  exact ⟨"", by rw [h, String.append_empty]⟩

mutual

/-- The keys of a value start with the key that it stands under. -/
theorem key_of_mem_flatten {key : String} : ∀ {value : Json} {pair : String × String},
    pair ∈ flatten key value → ∃ rest, pair.1 = key ++ rest
  | .object members, _, h => by
    rw [flatten] at h
    obtain ⟨rest, hrest⟩ := key_of_mem_flattenMembers h
    exact ⟨"[" ++ rest, hrest⟩
  | .list items, _, h => by
    rw [flatten] at h
    obtain ⟨rest, hrest⟩ := key_of_mem_flattenItems h
    exact ⟨"[" ++ rest, hrest⟩
  | .bool true, _, h => key_of_mem_leaf (by rwa [flatten] at h)
  | .bool false, _, h => key_of_mem_leaf (by rwa [flatten] at h)
  | .null, _, h => key_of_mem_leaf (by rwa [flatten] at h)
  | .text _, _, h => key_of_mem_leaf (by rwa [flatten] at h)
  | .number _, _, h => key_of_mem_leaf (by rwa [flatten] at h)

/-- The keys of the members of an object start with the key of the object and a bracket. -/
theorem key_of_mem_flattenMembers {key : String} :
    ∀ {members : List (String × Json)} {pair : String × String},
      pair ∈ flattenMembers key members → ∃ rest, pair.1 = key ++ ("[" ++ rest)
  | [], _, h => by
    rw [flattenMembers] at h
    cases h
  | (name, value) :: members, _, h => by
    rw [flattenMembers, List.mem_append] at h
    rcases h with h | h
    · obtain ⟨rest, hrest⟩ := key_of_mem_flatten h
      refine ⟨name ++ "]" ++ rest, ?_⟩
      rw [hrest, bracket]
      simp only [String.append_assoc]
    · exact key_of_mem_flattenMembers h

/-- The keys of the items of a list start with the key of the list and a bracket. -/
theorem key_of_mem_flattenItems {key : String} :
    ∀ {items : List Json} {index : Nat} {pair : String × String},
      pair ∈ flattenItems key index items → ∃ rest, pair.1 = key ++ ("[" ++ rest)
  | [], _, _, h => by
    rw [flattenItems] at h
    cases h
  | item :: items, index, _, h => by
    rw [flattenItems, List.mem_append] at h
    rcases h with h | h
    · obtain ⟨rest, hrest⟩ := key_of_mem_flatten h
      refine ⟨toString index ++ "]" ++ rest, ?_⟩
      rw [hrest, bracket]
      simp only [String.append_assoc]
    · exact key_of_mem_flattenItems h

end

/-- The keys of a filter start alike. -/
theorem key_of_mem_filterPairs {filter : Filter} {pair : String × String}
    (h : pair ∈ filterPairs filter) : ∃ rest, pair.1 = "filter" ++ ("[" ++ rest) :=
  key_of_mem_flattenMembers h

end Wire

namespace Clauses

open Store

variable {c : Clauses}

/-- The keys of a filter are none of the names of the other clauses. -/
theorem find?_filterPairs (filter : Filter) (name : String)
    (hname : ¬ "filter[".toList <+: name.toList) :
    (Wire.filterPairs filter).find? (fun pair => pair.1 == name) = none := by
  rw [List.find?_eq_none]
  intro pair hpair hkey
  obtain ⟨rest, hrest⟩ := Wire.key_of_mem_filterPairs hpair
  rw [beq_iff_eq] at hkey
  apply hname
  rw [← hkey, hrest, ← String.append_assoc, String.toList_append]
  exact List.prefix_append _ _

/-- A clause is found under its name only. -/
theorem find?_pair (name name' : String) (value : Option String) :
    (pair name value).find? (fun pair => pair.1 == name') =
      if name = name' then value.map fun v => (name, v) else none := by
  cases value <;> simp [pair]

section

variable {r : Request} (hquery : r.query = c.pairs)

include hquery

/-- The fields are found under their name. -/
theorem queryValue?_fields : r.queryValue? "fields" = c.fields := by
  simp only [Request.queryValue?, hquery, pairs, List.find?_append, find?_pair,
    find?_filterPairs _ "fields" (by decide)]
  cases c.fields <;> rfl

/-- The page size is found under its name. -/
theorem queryValue?_perPage : r.queryValue? "per-page" = c.perPage.map toString := by
  simp only [Request.queryValue?, hquery, pairs, List.find?_append, find?_pair,
    find?_filterPairs _ "per-page" (by decide)]
  cases c.perPage <;> rfl

/-- The page is found under its name. -/
theorem queryValue?_page : r.queryValue? "page" = c.page.map toString := by
  simp only [Request.queryValue?, hquery, pairs, List.find?_append, find?_pair,
    find?_filterPairs _ "page" (by decide)]
  cases c.page <;> rfl

/-- A store takes the page size that is asked for, if it is positive. -/
theorem pageSizeFor_eq (s : Settings) (hsize : ∀ size ∈ c.perPage, size ≤ Text.maxWord64) :
    s.pageSizeFor r = min ((c.perPage.filter (0 < ·)).getD s.pageSize) s.maxPageSize := by
  rw [Settings.pageSizeFor, queryValue?_perPage hquery]
  cases hperPage : c.perPage with
  | none => rfl
  | some size =>
    rw [Option.map_some, Option.bind_some, Text.nat?_toString (hsize size hperPage)]

/-- A store takes the page that is asked for. -/
theorem pageFor_eq (hpage : ∀ page ∈ c.page, page ≤ Text.maxWord64) :
    pageFor r = max (c.page.getD 1) 1 := by
  rw [pageFor, queryValue?_page hquery]
  cases h : c.page with
  | none => rfl
  | some page => rw [Option.map_some, Option.bind_some, Text.nat?_toString (hpage page h)]

/-- A store reads the page and its size in the clauses, if the size is one that it serves. -/
theorem read_page {s : Settings} {size number : Nat} (hsize : c.perPage.getD s.pageSize = size)
    (hown : ∀ n ∈ c.perPage, n = size) (hpos : 1 ≤ size) (hmax : size ≤ s.maxPageSize)
    (hword : size ≤ Text.maxWord64) (hnumber : c.page.getD 1 = number) (hfirst : 1 ≤ number)
    (hlast : number ≤ Text.maxWord64) : s.pageSizeFor r = size ∧ pageFor r = number := by
  constructor
  · rw [pageSizeFor_eq hquery s (fun n hn => by rw [hown n hn]; exact hword)]
    have hpositive : (c.perPage.filter (0 < ·)).getD s.pageSize = size := by
      cases hperPage : c.perPage with
      | none => rw [← hsize, hperPage]; rfl
      | some n =>
        have hn : n = size := hown n hperPage
        rw [hn, Option.filter_some, if_pos (by simp only [decide_eq_true_eq]; omega),
          Option.getD_some]
    rw [hpositive, Nat.min_eq_left hmax]
  · have hnumbers : ∀ n ∈ c.page, n ≤ Text.maxWord64 := by
      intro n hn
      rw [hn, Option.getD_some] at hnumber
      omega
    rw [pageFor_eq hquery hnumbers, hnumber, Nat.max_eq_left hfirst]

end

/-- A clause that spells no criterion adds none. -/
theorem criteria_append_pair {name : String} (hname : criterionKey? name = none)
    (query : List (String × String)) (value : Option String) :
    criteria (query ++ pair name value) = criteria query := by
  cases value with
  | none => simp [pair]
  | some v => simp [pair, criteria, hname]

/-- Only the filter spells criteria. -/
theorem criteria_pairs : criteria c.pairs = criteria (Wire.filterPairs (c.filter.getD [])) := by
  have hfields : criteria (pair "fields" c.fields) = [] := criteria_append_pair rfl [] c.fields
  have hfront : criteria (pair "fields" c.fields ++ pair "expand" c.expand) = [] := by
    rw [criteria_append_pair rfl, hfields]
  rw [pairs, criteria_append_pair rfl, criteria_append_pair rfl, criteria_append_pair rfl]
  unfold criteria at hfront ⊢
  rw [List.foldl_append, hfront]

end Clauses

/-! ## Clauses with commas -/

/-- A list with commas is made up of the pieces of its parts. -/
theorem Query.mem_pieces_commaList {parts : List String} {name : String} :
    name ∈ ((commaList parts).map (Text.pieces ',')).getD [] ↔
      ∃ part ∈ parts, part ≠ "" ∧ name ∈ Text.pieces ',' part := by
  unfold commaList
  cases hparts : parts.filter (· ≠ "") with
  | nil =>
    have hempty : ∀ part ∈ parts, part = "" := by simpa using hparts
    refine ⟨fun hmem => absurd hmem List.not_mem_nil, fun ⟨part, hpart, hne, _⟩ => ?_⟩
    exact absurd (hempty part hpart) hne
  | cons part rest =>
    have hmem : part ∈ parts.filter (· ≠ "") := hparts ▸ List.mem_cons_self
    have hjoined : String.intercalate "," (part :: rest) ≠ "" := by
      have hpart : part ≠ "" := by simpa using (List.mem_filter.mp hmem).2
      cases rest with
      | nil => simpa using hpart
      | cons next others => simp [String.intercalate_cons_cons, hpart]
    rw [if_neg hjoined, ← hparts]
    simp only [Option.map_some, Option.getD_some]
    rw [Text.pieces_intercalate (List.ne_nil_of_mem hmem)]
    simp [and_assoc]

end RestQuery
