import RestQuery.Proofs.Connection.Reading
import RestQuery.Proofs.Model.Key
import RestQuery.Proofs.Store.Routes
import RestQuery.Proofs.Text.Percent

/-!
# A request for one record

The path of a record is that of its collection with the key behind a slash. Whatever the key, it is
one segment: no slash is left in it, and it is read back as it was. So the path is cut between
collection and key where they were put together (`cutLast_append`), and the record is found by its
key (`Store.answerTo_item`), unless the path of the collection ends in a slash itself or a
collection is served under the path of the record.
-/

namespace RestQuery

open Session Text

namespace Text

/-- What is cut behind the last separator is what holds none. -/
theorem cutLast_append {sep : Char} {before after : List Char} (h : sep ∉ after) :
    cutLast sep (String.ofList (before ++ sep :: after)) =
      some (String.ofList before, String.ofList after) := by
  -- A text is cut from its end, so the induction is on what lies behind the separator, turned
  -- around.
  have hcut : ∀ cs : List Char, sep ∉ cs →
      cutChars sep (cs ++ sep :: before.reverse) = some (cs, before.reverse) := by
    intro cs hcs
    induction cs with
    | nil => rw [List.nil_append, cutChars, if_pos rfl]
    | cons c rest ih =>
      have hne : c ≠ sep := fun hc => hcs (hc ▸ List.mem_cons_self)
      have hrest := ih fun hmem => hcs (List.mem_cons_of_mem c hmem)
      rw [List.cons_append, cutChars, if_neg hne, hrest]
      rfl
  have hreverse : (before ++ sep :: after).reverse = after.reverse ++ sep :: before.reverse := by
    simp
  rw [cutLast, String.toList_ofList, hreverse, hcut _ (by simpa using h), Option.map_some]
  dsimp only
  rw [List.reverse_reverse, List.reverse_reverse]

/-- A text without a separator is not cut. -/
theorem cutLast_eq_none {sep : Char} {cs : List Char} (h : sep ∉ cs) :
    cutLast sep (String.ofList cs) = none := by
  rw [cutLast, Option.map_eq_none_iff, Option.eq_none_iff_forall_ne_some]
  rintro ⟨after, before⟩ hcut
  have hsplit := eq_of_cutChars hcut
  rw [String.toList_ofList] at hsplit
  exact h (List.mem_reverse.mp (hsplit ▸ by simp))

/-- Where the last character stays, nothing is dropped from the end. -/
theorem dropEndWhile_concat {p : Char → Bool} {last : Char} (h : p last = false) (cs : List Char) :
    dropEndWhile p (cs ++ [last]) = cs ++ [last] := by
  rw [dropEndWhile, List.reverse_append, List.reverse_singleton, List.singleton_append,
    List.dropWhile_cons_of_neg (by simpa using h), List.reverse_cons, List.reverse_reverse]

end Text

/-- A key is one segment of a path. -/
theorem Key.slash_not_mem_segment (key : String) : '/' ∉ (segment key).toList :=
  not_mem_percentEncode (by decide) (by decide) key

/-- A key is read back from its segment. -/
theorem Key.percentDecode_segment (key : String) : percentDecode (segment key) = key :=
  percentDecode_percentEncode (by decide) key

namespace Store

/-- Whether a path ends in a character that is no slash. -/
def Unslashed (path : String) : Prop := path.toList.getLast?.any (· != '/')

instance : DecidablePred Unslashed := fun _ => inferInstanceAs (Decidable (_ = true))

variable {s : Settings} {collections : KeyMap (List Json)} {path key : String}

/-- The path of a record is that of the collection, without the slashes that it starts with, and the
segment of the key behind a slash; or this segment alone, if there is nothing else. -/
theorem collectionPath_itemPath (path : String) (hkey : key ≠ "") :
    collectionPath (Command.itemPath path key) =
      if path.toList.dropWhile (· == '/') = [] then Key.segment key
      else String.ofList (path.toList.dropWhile (· == '/') ++ '/' :: (Key.segment key).toList) := by
  have hsegment : (Key.segment key).toList ≠ [] := by
    simpa using Key.segment_ne_empty hkey
  obtain ⟨start, ending, hsplit⟩ : ∃ start ending,
      (Key.segment key).toList = start ++ [ending] :=
    ⟨_, _, (List.dropLast_concat_getLast hsegment).symm⟩
  -- The segment neither starts nor ends with a slash.
  have hnone : ∀ c ∈ (Key.segment key).toList, (c == '/') = false := by
    intro c hc
    rw [beq_eq_false_iff_ne]
    rintro rfl
    exact Key.slash_not_mem_segment key hc
  have hending : (ending == '/') = false := hnone ending (hsplit ▸ by simp)
  have hstart : ('/' :: (Key.segment key).toList).dropWhile (· == '/') =
      (Key.segment key).toList := by
    rw [List.dropWhile_cons_of_pos (by simp)]
    cases hchars : (Key.segment key).toList with
    | nil => rfl
    | cons c rest =>
      exact List.dropWhile_cons_of_neg (by simp [hnone c (by simp [hchars])])
  have hchars : (Command.itemPath path key).toList =
      path.toList ++ '/' :: (Key.segment key).toList := by
    rw [Command.itemPath, String.toList_append, String.toList_append]
    simp
  rw [collectionPath, trimChar, stripWhile, hchars, List.dropWhile_append, hstart]
  by_cases hfront : path.toList.dropWhile (· == '/') = []
  · rw [if_pos (by simp [hfront]), if_pos hfront, hsplit,
      dropEndWhile_concat (p := (· == '/')) hending, ← hsplit, String.ofList_toList]
  · rw [if_neg (by simpa using hfront), if_neg hfront, hsplit, ← List.cons_append,
      ← List.append_assoc, dropEndWhile_concat (p := (· == '/')) hending]

/-- A path that ends in no slash loses only those that it starts with. -/
theorem collectionPath_of_unslashed (hpath : Unslashed path) :
    path.toList.dropWhile (· == '/') ≠ [] ∧
      collectionPath path = String.ofList (path.toList.dropWhile (· == '/')) := by
  obtain ⟨last, hlast, hne⟩ := (Option.any_eq_true _ _).mp hpath
  obtain ⟨front, hfront⟩ := List.getLast?_eq_some_iff.mp hlast
  have hstays : (last == '/') = false := by simpa using hne
  have hstart : ∃ rest, (front ++ [last]).dropWhile (· == '/') = rest ++ [last] := by
    rw [List.dropWhile_append]
    split
    · exact ⟨[], by rw [List.dropWhile_cons_of_neg (by simp [hstays]), List.nil_append]⟩
    · exact ⟨_, rfl⟩
  obtain ⟨rest, hrest⟩ := hstart
  rw [collectionPath, trimChar, stripWhile, hfront, hrest,
    dropEndWhile_concat (p := (· == '/')) hstays]
  exact ⟨by simp, rfl⟩

/-- A path that ends in a slash has still one at its end if it has another character. -/
theorem getLast?_of_slashed (hpath : ¬ Unslashed path)
    (hfront : path.toList.dropWhile (· == '/') ≠ []) :
    (path.toList.dropWhile (· == '/')).getLast? = some '/' := by
  obtain ⟨skipped, hskipped⟩ := List.dropWhile_suffix (l := path.toList) (· == '/')
  generalize path.toList.dropWhile (· == '/') = front at hfront hskipped ⊢
  obtain ⟨last, hlast⟩ : ∃ last, front.getLast? = some last :=
    ⟨_, List.getLast?_eq_some_getLast hfront⟩
  have hends : path.toList.getLast? = some last := by
    rw [← hskipped, List.getLast?_append, hlast, Option.some_or]
  rw [Unslashed, hends, Option.any_some, bne_iff_ne, ne_eq, not_not] at hpath
  rw [hlast, hpath]

/-- The path under which a collection is served ends in no slash. -/
theorem getLast?_collectionPath (path : String) :
    (collectionPath path).toList.getLast? ≠ some '/' := by
  intro hlast
  rw [collectionPath, trimChar, String.toList_ofList, stripWhile, dropEndWhile,
    List.getLast?_reverse] at hlast
  have hstays := List.head?_dropWhile_not (· == '/') (path.toList.dropWhile (· == '/')).reverse
  rw [hlast] at hstays
  simp at hstays

/-- Below a path that ends in no slash, the path of a record is cut between collection and key. -/
theorem cutLast_itemPath (hpath : Unslashed path) (hkey : key ≠ "") :
    cutLast '/' (collectionPath (Command.itemPath path key)) =
      some (collectionPath path, Key.segment key) := by
  obtain ⟨hfront, hcollection⟩ := collectionPath_of_unslashed hpath
  rw [collectionPath_itemPath path hkey, if_neg hfront,
    cutLast_append (Key.slash_not_mem_segment key), hcollection, String.ofList_toList]

/-- Below a path, a key addresses the rows of the collection under this path. -/
theorem addresses_itemPath {rows : List Json} {request : Request} (hkey : key ≠ "")
    (hpath : Unslashed path) (hrequest : request.path = Command.itemPath path key)
    (hrows : KeyMap.get? collections (collectionPath path) = some rows)
    (hfree : KeyMap.get? collections (collectionPath (Command.itemPath path key)) = none) :
    Addresses collections request (collectionPath path) key rows where
  free := hrequest ▸ hfree
  told := by
    rw [addressed?, hrequest, cutLast_itemPath hpath hkey, Option.map_some]
    dsimp only
    rw [Key.percentDecode_segment]
  served := hrows

/-- A record is found by its key among the rows of its collection. -/
theorem answerTo_item {request : Request} {rows : List Json} (hget : request.method = .get)
    (hpath : Unslashed path) (hkey : key ≠ "") (hrequest : request.path = Command.itemPath path key)
    (hfree : KeyMap.get? collections (collectionPath (Command.itemPath path key)) = none)
    (hrows : KeyMap.get? collections (collectionPath path) = some rows) :
    answerTo s collections request =
      match rows.find? (hasId key) with
      | some row => { status := 200, body := project (request.queryValue? "fields") row }
      | none => { status := 404 } := by
  have haddresses : Addresses collections request (collectionPath path) key rows :=
    addresses_itemPath hkey hpath hrequest hrows hfree
  unfold answerTo
  rcases exists_firstWithId key rows with hnone | ⟨front, row, back, hfirst⟩
  · rw [haddresses.handle_none hnone, List.find?_eq_none.mpr (by simpa using hnone)]
  · rw [haddresses.handle_first hfirst, hfirst.find?]
    simp only [onItem, hget]

/-- Whether the collections are found under the paths that they are served under. -/
def Trimmed (collections : KeyMap (List Json)) : Prop :=
  ∀ path ∈ KeyMap.keys collections, collectionPath path = path

/-- Below a path that ends in a slash, no record is found. -/
theorem answerTo_item_of_slashed {request : Request} (hpath : ¬ Unslashed path) (hkey : key ≠ "")
    (hrequest : request.path = Command.itemPath path key)
    (hfree : KeyMap.get? collections (collectionPath (Command.itemPath path key)) = none)
    (htrimmed : Trimmed collections) :
    answerTo s collections request = { status := 404 } := by
  have hnone : ∀ collection id rows, ¬ Addresses collections request collection id rows := by
    intro collection id rows haddresses
    obtain ⟨segment, hcut⟩ : ∃ segment,
        cutLast '/' (collectionPath (Command.itemPath path key)) = some (collection, segment) := by
      obtain ⟨parts, hcut, hparts⟩ := Option.map_eq_some_iff.mp haddresses.told
      rw [hrequest] at hcut
      exact ⟨parts.2, (Prod.mk.inj hparts).1 ▸ hcut⟩
    rw [collectionPath_itemPath path hkey] at hcut
    split at hcut
    · rw [← String.ofList_toList (s := Key.segment key),
        cutLast_eq_none (Key.slash_not_mem_segment key)] at hcut
      cases hcut
    · rename_i hfront
      rw [cutLast_append (Key.slash_not_mem_segment key)] at hcut
      obtain ⟨rfl, -⟩ := Prod.mk.inj (Option.some.inj hcut)
      -- No collection is served under a path that ends in a slash.
      have habsent : String.ofList (path.toList.dropWhile (· == '/')) ∉ KeyMap.keys collections := by
        intro hmem
        have hslash := getLast?_of_slashed hpath hfront
        rw [← String.toList_ofList (l := path.toList.dropWhile _), ← htrimmed _ hmem] at hslash
        exact getLast?_collectionPath _ hslash
      have hserved := haddresses.served
      rw [KeyMap.get?_eq_none_iff.mpr habsent] at hserved
      cases hserved
  exact congrArg Prod.fst (handle_nowhere (hrequest ▸ hfree) hnone)

end Store

end RestQuery
