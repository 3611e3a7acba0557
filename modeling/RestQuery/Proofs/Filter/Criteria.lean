import RestQuery.Proofs.Filter.Sent
import RestQuery.Proofs.Query.Pairs
import RestQuery.Proofs.Text.Digits

/-!
# What a store reads in the pairs of a filter

A store reads a criterion in a pair whose key has two parts behind `filter`, or three, and the
second is an operator that it knows. So an equality of a field is a criterion (`criterionKey?_eq`),
and so is each value of a membership (`criterionKey?_in`). A key with more parts is not
(`criterionKey?_of_many`): a comparison below a connective leaves all rows in.

A row meets the criteria of an equality of fields with values if it has the texts that these are
sent as (`meetsAll_leaves`). Texts and whole numbers are sent as the texts by which they are
compared (`meetsAll_fields`). A row needs one of the values of a membership, of which those with
parts are passed over (`meetsAll_member`), and alternatives of equalities give no criteria at all
(`criteria_joined`).
-/

namespace RestQuery

namespace Text

/-- Whether a text does not hold the two characters that end one part of a key and start the next.
-/
def Unbroken (s : String) : Prop := ¬ [']', '['] <:+: s.toList

instance : DecidablePred Unbroken := fun s => inferInstanceAs (Decidable (¬ _ <:+: s.toList))

variable {a b : Char} {cs rest : List Char}

/-- The piece before the first separator ends there. -/
theorem piecesAtPair_append (hne : a ≠ b) (h : ¬ [a, b] <:+: cs) :
    piecesAtPair a b (cs ++ a :: b :: rest) = cs :: piecesAtPair a b rest := by
  induction cs with
  | nil =>
    rw [List.nil_append, piecesAtPair, if_pos ⟨rfl, rfl⟩]
  | cons c cs ih =>
    have hcs : ¬ [a, b] <:+: cs := fun hin => h (hin.trans (List.suffix_cons c cs).isInfix)
    have htail := ih hcs
    cases cs with
    | nil =>
      have hnot : ¬ (c = a ∧ a = b) := fun hpair => hne hpair.2
      rw [List.cons_append, List.nil_append, piecesAtPair, if_neg hnot]
      rw [List.nil_append] at htail
      rw [htail]
    | cons d cs =>
      have hnot : ¬ (c = a ∧ d = b) := by
        rintro ⟨rfl, rfl⟩
        exact h ⟨[], cs, rfl⟩
      rw [List.cons_append, List.cons_append, piecesAtPair, if_neg hnot]
      rw [List.cons_append] at htail
      rw [htail]

/-- Characters without a separator are one piece. -/
theorem piecesAtPair_of_unbroken (h : ¬ [a, b] <:+: cs) : piecesAtPair a b cs = [cs] := by
  induction cs with
  | nil => rfl
  | cons c cs ih =>
    have hcs : ¬ [a, b] <:+: cs := fun hin => h (hin.trans (List.suffix_cons c cs).isInfix)
    cases cs with
    | nil => rfl
    | cons d cs =>
      have hnot : ¬ (c = a ∧ d = b) := by
        rintro ⟨rfl, rfl⟩
        exact h ⟨[], cs, rfl⟩
      rw [piecesAtPair, if_neg hnot, ih hcs]

theorem piecesAtPair_ne_nil (a b : Char) (cs : List Char) : piecesAtPair a b cs ≠ [] := by
  fun_induction piecesAtPair a b cs <;> simp_all

/-- Where a separator stands, there are two pieces at least. -/
theorem two_le_length_piecesAtPair (a b : Char) (cs rest : List Char) :
    2 ≤ (piecesAtPair a b (cs ++ a :: b :: rest)).length := by
  have hsome : ∀ ds, 1 ≤ (piecesAtPair a b ds).length :=
    fun ds => List.length_pos_iff.mpr (piecesAtPair_ne_nil a b ds)
  induction cs with
  | nil =>
    have hrest := hsome rest
    rw [List.nil_append, piecesAtPair, if_pos ⟨rfl, rfl⟩, List.length_cons]
    omega
  | cons c cs ih =>
    obtain ⟨d, tail, htail⟩ : ∃ d tail, cs ++ a :: b :: rest = d :: tail :=
      List.exists_cons_of_ne_nil (by simp)
    rw [List.cons_append, htail, piecesAtPair]
    rw [htail] at ih
    split
    · -- A cut leaves a piece before it, and one behind it.
      have hbehind := hsome tail
      rw [List.length_cons]
      omega
    · split
      · rename_i hnil
        exact absurd hnil (piecesAtPair_ne_nil a b _)
      · rename_i hpieces
        rw [hpieces] at ih
        exact ih

/-- Only behind a character that is kept are any dropped. -/
theorem dropEndWhile_append {p : Char → Bool} {last : Char} (hlast : p last = false)
    (front ending : List Char) :
    dropEndWhile p (front ++ last :: ending) = front ++ last :: dropEndWhile p ending := by
  rw [dropEndWhile, dropEndWhile, List.reverse_append, List.reverse_cons, List.append_assoc,
    List.singleton_append, List.dropWhile_append]
  split
  · rename_i hnone
    rw [List.dropWhile_cons_of_neg (by simp [hlast]), List.isEmpty_iff.mp hnone]
    simp
  · simp

end Text

namespace Json

/-- Whether a value is a text or a whole number. -/
def isPlain : Json → Bool
  | .text _ | .number (.whole _) => true
  | .null | .bool _ | .number (.real _) | .list _ | .object _ => false

/-- What is the same as such a value is one too, and has its text. -/
theorem isPlain_of_same {v v' : Json} (hv : v'.isPlain) (h : v.same v') :
    v.isPlain ∧ v.keyText = v'.keyText := by
  unfold isPlain at hv
  split at hv
  · cases v <;> simp_all [same, isPlain]
  · rename_i n
    cases v with
    | number n' => cases n' <;> simp_all [same, Number.same, isPlain]
    | _ => simp_all [same]
  all_goals cases hv

/-- Whether a value has no parts. -/
def isLeaf : Json → Bool
  | .list _ | .object _ => false
  | _ => true

/-- A text or a whole number has no parts. -/
theorem isLeaf_of_isPlain {v : Json} (h : v.isPlain) : v.isLeaf := by
  cases v <;> simp_all [isPlain, isLeaf]

/-- Such a value is no list. -/
theorem isList_of_isPlain {v : Json} (h : v.isPlain) : v.isList = false := by
  cases v <;> simp_all [isPlain, isList]

/-- The text of a field of a row. A field that the row lacks has the empty text. -/
def textAt (row : Json) (field : String) : String := ((row.member? field).map keyText).getD ""

end Json

/-- A value without parts is compared for equality. -/
theorem Filter.pairOperators_of_isLeaf {params : Parameters} {v : Json}
    (h : (resolve params v).isLeaf) :
    pairOperators params v = .object (single "eq" (resolve params v)) := by
  cases v with
  | list items => rw [resolve] at h; cases h
  | _ => rfl

/-- A text or a whole number is compared for equality. -/
theorem Filter.pairOperators_of_isPlain {params : Parameters} {v : Json}
    (h : (resolve params v).isPlain) :
    pairOperators params v = .object (single "eq" (resolve params v)) :=
  pairOperators_of_isLeaf (Json.isLeaf_of_isPlain h)

/-- Fields are compared for equality with any values that are no lists. -/
theorem Filter.exists_fields (params : Parameters) {pairs : List (String × Json)}
    (h : ∀ pair ∈ pairs, pair.2.isList = false) : ∃ f, fields params pairs = .ok f := by
  have hpair : ∀ pair ∈ pairs, ∃ part, Filter.pair params pair = .ok part := by
    rintro ⟨name, value⟩ hpair
    have hvalue := h _ hpair
    cases value with
    | list items => cases hvalue
    | _ => exact ⟨_, rfl⟩
  unfold fields
  generalize ([] : Filter) = start
  induction pairs generalizing start with
  | nil => exact ⟨start, rfl⟩
  | cons pair rest ih =>
    obtain ⟨part, hpart⟩ := hpair pair List.mem_cons_self
    rw [List.foldlM_cons, hpart]
    exact ih (fun pair hmem => h pair (List.mem_cons_of_mem _ hmem))
      (fun pair hmem => hpair pair (List.mem_cons_of_mem _ hmem)) _

/-- Fields are compared for equality with any values that have no parts. -/
theorem Filter.exists_fields_of_isLeaf {params : Parameters} {pairs : List (String × Json)}
    (h : ∀ pair ∈ pairs, (resolve params pair.2).isLeaf) : ∃ f, fields params pairs = .ok f := by
  refine exists_fields params fun pair hpair => ?_
  have hleaf := h pair hpair
  cases hvalue : pair.2 with
  | list items =>
    rw [hvalue, resolve] at hleaf
    cases hleaf
  | _ => rfl

namespace Wire

theorem toList_bracket (key part : String) :
    (bracket key part).toList = key.toList ++ '[' :: (part.toList ++ [']']) := by
  simp [bracket]

/-- The text that a value without parts is sent as. -/
def leafText : Json → String
  | .bool true => "1"
  | .bool false => "0"
  | .null => ""
  | value => value.keyText

/-- A value without parts is sent as one pair. -/
theorem flatten_of_isLeaf {v : Json} (h : v.isLeaf) (key : String) :
    flatten key v = [(key, leafText v)] := by
  cases v with
  | null => rw [flatten, leafText]
  | bool value => cases value <;> rw [flatten, leafText]
  | number n =>
    rw [flatten]
    rfl
  | text s =>
    rw [flatten]
    rfl
  | list items => cases h
  | object members => cases h

/-- A text or a whole number is sent as the text by which it is compared. -/
theorem leafText_of_isPlain {v : Json} (h : v.isPlain) : leafText v = v.keyText := by
  unfold Json.isPlain at h
  split at h
  · rfl
  · rfl
  all_goals cases h

theorem flatten_of_isPlain {v : Json} (h : v.isPlain) (key : String) :
    flatten key v = [(key, v.keyText)] := by
  rw [flatten_of_isLeaf (Json.isLeaf_of_isPlain h), leafText_of_isPlain h]

/-- The keys of the parts of a value start with the key that it stands under and a bracket. -/
theorem key_of_mem_parts {key : String} {v : Json} {pair : String × String}
    (hv : v.isLeaf = false) (h : pair ∈ flatten key v) : ∃ rest, pair.1 = key ++ ("[" ++ rest) := by
  cases v with
  | object members =>
    rw [flatten] at h
    exact key_of_mem_flattenMembers h
  | list items =>
    rw [flatten] at h
    exact key_of_mem_flattenItems h
  | _ => cases hv

end Wire

namespace Store

open Wire Text

/-- The two parts of a key, or the three, name a field and an operator. -/
theorem criterionKey?_of_pieces {key : String} {front : List Char} {last : Char}
    {pieces : List (List Char)} (hkey : key.toList = "filter[".toList ++ (front ++ [last] ++ [']']))
    (hlast : last ≠ ']') (hpieces : piecesAtPair ']' '[' (front ++ [last]) = pieces) :
    criterionKey? key =
      match pieces.map String.ofList with
      | [field, op] | [field, op, _] =>
        if op ∈ ["eq", "neq", "in", "nin"] then some (field, op) else none
      | _ => none := by
  have hdropped : dropEndWhile (· == ']') (front ++ [last] ++ [']']) = front ++ [last] := by
    rw [List.append_assoc]
    exact dropEndWhile_append (p := (· == ']')) (beq_eq_false_iff_ne.mpr hlast) front [']']
  rw [criterionKey?, hkey]
  show (match (piecesAtPair ']' '[' (dropEndWhile (· == ']')
      (front ++ [last] ++ [']']))).map String.ofList with
    | [field, op] | [field, op, _] => _
    | _ => none) = _
  rw [hdropped, hpieces]

/-- The equality of a field is a criterion. -/
theorem criterionKey?_eq {field : String} (h : Unbroken field) :
    criterionKey? (bracket (bracket "filter" field) "eq") = some (field, "eq") := by
  have hkey : (bracket (bracket "filter" field) "eq").toList =
      "filter[".toList ++ (field.toList ++ [']', '[', 'e'] ++ ['q'] ++ [']']) := by
    simp [toList_bracket]
  have hpieces : piecesAtPair ']' '[' (field.toList ++ [']', '[', 'e'] ++ ['q']) =
      [field.toList, ['e', 'q']] := by
    rw [List.append_assoc]
    exact piecesAtPair_append (by decide) h
  rw [criterionKey?_of_pieces hkey (by decide) hpieces]
  simp

/-- The characters of a number end with one that is no bracket. -/
theorem exists_last_toString (n : Nat) :
    ∃ front last, (toString n).toList = front ++ [last] ∧ last ≠ ']' ∧
      ¬ [']', '['] <:+: (toString n).toList := by
  have hdigits : (toString n).toList = Nat.toDigits 10 n := by
    rw [Nat.toString_eq_repr, Nat.toList_repr]
  have hnone : ']' ∉ Nat.toDigits 10 n := by
    intro hmem
    have hdigit := isDigit_of_mem_toDigits hmem
    exact absurd hdigit (by decide)
  obtain ⟨front, last, heq⟩ : ∃ front last, Nat.toDigits 10 n = front ++ [last] :=
    ⟨_, _, (List.dropLast_append_getLast Nat.toDigits_ne_nil).symm⟩
  refine ⟨front, last, hdigits.trans heq, ?_, ?_⟩
  · rintro rfl
    exact hnone (by rw [heq]; simp)
  · intro hin
    rw [hdigits] at hin
    exact hnone (hin.subset (by simp))

/-- Each value of a membership is a criterion. -/
theorem criterionKey?_in {field : String} (h : Unbroken field) (i : Nat) :
    criterionKey? (bracket (bracket (bracket "filter" field) "in") (toString i)) =
      some (field, "in") := by
  obtain ⟨front, last, hdigits, hlast, hunbroken⟩ := exists_last_toString i
  have hkey : (bracket (bracket (bracket "filter" field) "in") (toString i)).toList =
      "filter[".toList ++ (field.toList ++ [']', '[', 'i', 'n', ']', '['] ++ front ++ [last] ++
        [']']) := by
    simp only [toList_bracket, hdigits]
    simp
  have hpieces : piecesAtPair ']' '['
      (field.toList ++ [']', '[', 'i', 'n', ']', '['] ++ front ++ [last]) =
        [field.toList, ['i', 'n'], (toString i).toList] := by
    have hop : piecesAtPair ']' '[' (['i', 'n'] ++ ']' :: '[' :: (toString i).toList) =
        ['i', 'n'] :: piecesAtPair ']' '[' (toString i).toList :=
      piecesAtPair_append (by decide) (by decide)
    rw [piecesAtPair_of_unbroken hunbroken] at hop
    rw [List.append_assoc, ← hdigits, List.append_assoc, ← hop]
    exact piecesAtPair_append (by decide) h
  rw [criterionKey?_of_pieces hkey hlast hpieces]
  simp

/-- A key with four parts at least is no criterion. -/
theorem criterionKey?_of_many {key first second : String} (hfirst : Unbroken first)
    (hsecond : Unbroken second) {third rest : List Char}
    (hkey : key.toList = (bracket (bracket "filter" first) second).toList ++
      '[' :: (third ++ ']' :: '[' :: rest)) : criterionKey? key = none := by
  let kept := dropEndWhile (· == ']') rest
  let front := first.toList ++ ']' :: '[' :: (second.toList ++ ']' :: '[' :: (third ++ [']']))
  have hrest : key.toList = "filter[".toList ++ (front ++ '[' :: rest) := by
    rw [hkey]
    simp [toList_bracket, front]
  have hpieces : piecesAtPair ']' '[' (front ++ '[' :: kept) =
      first.toList :: second.toList :: piecesAtPair ']' '[' (third ++ ']' :: '[' :: kept) := by
    rw [← piecesAtPair_append (by decide) hsecond, ← piecesAtPair_append (by decide) hfirst]
    simp [front]
  have hmany := two_le_length_piecesAtPair ']' '[' third kept
  rw [criterionKey?, hrest]
  show (match (piecesAtPair ']' '[' (dropEndWhile (· == ']') (front ++ '[' :: rest))).map
      String.ofList with
    | [field, op] | [field, op, _] => _
    | _ => none) = _
  rw [dropEndWhile_append (by decide), hpieces]
  generalize piecesAtPair ']' '[' (third ++ ']' :: '[' :: kept) = pieces at hmany
  rcases pieces with _ | ⟨third, _ | ⟨fourth, more⟩⟩
  · simp at hmany
  · simp at hmany
  · rfl

/-- A comparison below a connective is no criterion. -/
theorem criterionKey?_nested (i : Nat) (field : String) :
    criterionKey? (bracket (bracket (bracket (bracket "filter" "or") (toString i)) field) "eq") =
      none := by
  obtain ⟨-, -, -, -, hunbroken⟩ := exists_last_toString i
  have hkey : (bracket (bracket (bracket (bracket "filter" "or") (toString i)) field) "eq").toList =
      (bracket (bracket "filter" "or") (toString i)).toList ++
        '[' :: (field.toList ++ ']' :: '[' :: ['e', 'q', ']']) := by
    simp [toList_bracket]
  exact criterionKey?_of_many (by decide) hunbroken hkey

/-- What is sent below a value of a membership is no criterion. -/
theorem criterionKey?_below {field : String} (h : Unbroken field) (i : Nat) (rest : String) :
    criterionKey? (bracket (bracket (bracket "filter" field) "in") (toString i) ++
      ("[" ++ rest)) = none := by
  have hkey : (bracket (bracket (bracket "filter" field) "in") (toString i) ++
      ("[" ++ rest)).toList = (bracket (bracket "filter" field) "in").toList ++
        '[' :: ((toString i).toList ++ ']' :: '[' :: rest.toList) := by
    simp [toList_bracket]
  exact criterionKey?_of_many h (by decide) hkey

/-- Pairs whose keys name no criterion add none. -/
theorem foldl_of_none {query : List (String × String)} {found : List Criterion}
    (h : ∀ pair ∈ query, criterionKey? pair.1 = none) :
    query.foldl (fun acc pair =>
      match criterionKey? pair.1 with
      | some (field, op) => addCriterion field op pair.2 acc
      | none => acc) found = found := by
  induction query with
  | nil => rfl
  | cons pair rest ih =>
    rw [List.foldl_cons, h pair List.mem_cons_self]
    exact ih fun pair hpair => h pair (List.mem_cons_of_mem _ hpair)

theorem criteria_of_none {query : List (String × String)}
    (h : ∀ pair ∈ query, criterionKey? pair.1 = none) : criteria query = [] :=
  foldl_of_none h

/-- A value of a field that is not compared so far is a criterion of its own. -/
theorem addCriterion_of_new {field op : String} (value : String) {found : List Criterion}
    (h : ∀ c ∈ found, c.field ≠ field) :
    addCriterion field op value found = found ++ [⟨field, op, [value]⟩] := by
  induction found with
  | nil => rfl
  | cons c rest ih =>
    have hother : ¬ (c.field = field ∧ c.op = op) := fun hsame =>
      h c List.mem_cons_self hsame.1
    rw [addCriterion, if_neg hother, ih fun c hc => h c (List.mem_cons_of_mem _ hc)]
    rfl

/-- The criterion that is sent of a comparison for equality. -/
def sentEquality (field : String) (body : Json) : Criterion :=
  ⟨field, "eq", [leafText ((body.member? "eq").getD .null)]⟩

/-- A row meets the equality of a field with a value if it has there the text that is sent. -/
theorem holds_sentEquality (field : String) (v row : Json) :
    (sentEquality field (.object (Filter.single "eq" v))).holds row =
      (row.textAt field == leafText v) := by
  have hvalue : ((Json.object (Filter.single "eq" v)).member? "eq").getD .null = v := rfl
  rw [sentEquality, hvalue, Criterion.holds, if_pos (.inl rfl), List.contains_cons,
    List.contains_nil, Bool.or_false]
  rfl

/-- The criteria of comparisons for equality, of a field each, are these comparisons. -/
theorem criteria_equalities {f : Filter} (hnodup : (KeyMap.keys f).Nodup)
    (hf : ∀ entry ∈ f, Unbroken entry.1 ∧
      ∃ v : Json, v.isLeaf ∧ entry.2 = .object (Filter.single "eq" v)) :
    criteria (filterPairs f) = f.map fun (field, body) => sentEquality field body := by
  unfold criteria filterPairs
  -- Each criterion is put behind those found before, so the induction is over any of these.
  have hfound : ∀ c ∈ ([] : List Criterion), ∀ entry ∈ f, c.field ≠ entry.1 :=
    List.forall_mem_nil _
  rw [← List.nil_append (f.map _)]
  generalize ([] : List Criterion) = found at hfound ⊢
  induction f generalizing found with
  | nil => rw [flattenMembers, List.foldl_nil, List.map_nil, List.append_nil]
  | cons entry rest ih =>
    obtain ⟨field, body⟩ := entry
    obtain ⟨hunbroken, v, hv, hbody⟩ := hf (field, body) List.mem_cons_self
    obtain ⟨hfield, hrest⟩ := List.nodup_cons.mp hnodup
    dsimp only at hunbroken hbody
    have hpairs : flatten (bracket "filter" field) body =
        [(bracket (bracket "filter" field) "eq", leafText v)] := by
      rw [hbody, flatten, Filter.single, flattenMembers, flattenMembers, List.append_nil,
        flatten_of_isLeaf hv]
    have hnew : addCriterion field "eq" (leafText v) found =
        found ++ [sentEquality field body] := by
      rw [addCriterion_of_new _ fun c hc => hfound c hc _ List.mem_cons_self, hbody]
      rfl
    rw [flattenMembers, hpairs, List.foldl_append, List.foldl_cons, List.foldl_nil,
      criterionKey?_eq hunbroken]
    dsimp only
    rw [hnew, ih hrest (fun entry hentry => hf entry (List.mem_cons_of_mem _ hentry)),
      List.append_assoc]
    · rfl
    · intro c hc entry hentry
      rcases List.mem_append.mp hc with hc | hc
      · exact hfound c hc entry (List.mem_cons_of_mem _ hentry)
      · rw [List.mem_singleton] at hc
        rw [hc]
        exact fun hsame => hfield (List.mem_map.mpr ⟨entry, hentry, hsame.symm⟩)

/-- The equality of fields with values without parts is met by the rows whose fields have the texts
that the values are sent as. -/
theorem meetsAll_leaves {params : Parameters} {pairs : List (String × Json)} {f : Filter}
    (h : Filter.fields params pairs = .ok f) (hnodup : (pairs.map Prod.fst).Nodup)
    (hpairs : ∀ pair ∈ pairs, Unbroken pair.1 ∧ (resolve params pair.2).isLeaf) (row : Json) :
    meetsAll (criteria (filterPairs f)) row =
      pairs.all fun (field, value) => row.textAt field == leafText (resolve params value) := by
  have hoperators : ∀ pair ∈ pairs, Filter.pairOperators params pair.2 =
      .object (Filter.single "eq" (resolve params pair.2)) :=
    fun pair hpair => Filter.pairOperators_of_isLeaf (hpairs pair hpair).2
  have hholds : ∀ pair ∈ pairs,
      (sentEquality pair.1 (Filter.pairOperators params pair.2)).holds row =
        (row.textAt pair.1 == leafText (resolve params pair.2)) := by
    intro pair hpair
    rw [hoperators pair hpair, holds_sentEquality]
  have hkeys : ((pairs.map fun (field, value) =>
      (field, Filter.pairOperators params value)).map Prod.fst).Nodup := by
    simpa [Function.comp_def] using hnodup
  have hperm := KeyMap.ofEntries_perm hkeys
  rw [← Filter.fields_eq_ok h] at hperm
  have hcriteria := criteria_equalities (f := f) ((hperm.map Prod.fst).nodup_iff.mpr hkeys) (by
    intro entry hentry
    obtain ⟨pair, hpair, rfl⟩ := List.mem_map.mp (hperm.mem_iff.mp hentry)
    exact ⟨(hpairs pair hpair).1, _, (hpairs pair hpair).2, hoperators pair hpair⟩)
  rw [hcriteria, meetsAll, List.all_map, Bool.eq_iff_iff, List.all_eq_true, List.all_eq_true]
  -- The filter holds the comparisons of the pairs, in another order.
  constructor
  · rintro hmeets ⟨field, value⟩ hpair
    exact (hholds _ hpair).symm.trans (hmeets _ (hperm.mem_iff.mpr (List.mem_map_of_mem hpair)))
  · intro hmeets entry hentry
    obtain ⟨⟨field, value⟩, hpair, rfl⟩ := List.mem_map.mp (hperm.mem_iff.mp hentry)
    exact (hholds _ hpair).trans (hmeets _ hpair)

/-- The equality of fields with texts and whole numbers is met by the rows whose fields have the
texts of these. -/
theorem meetsAll_fields {params : Parameters} {pairs : List (String × Json)} {f : Filter}
    (h : Filter.fields params pairs = .ok f) (hnodup : (pairs.map Prod.fst).Nodup)
    (hpairs : ∀ pair ∈ pairs, Unbroken pair.1 ∧ (resolve params pair.2).isPlain) (row : Json) :
    meetsAll (criteria (filterPairs f)) row =
      pairs.all fun (field, value) => row.textAt field == (resolve params value).keyText := by
  rw [meetsAll_leaves h hnodup fun pair hpair =>
    ⟨(hpairs pair hpair).1, Json.isLeaf_of_isPlain (hpairs pair hpair).2⟩, Bool.eq_iff_iff,
    List.all_eq_true, List.all_eq_true]
  refine forall₂_congr fun pair hpair => ?_
  obtain ⟨field, value⟩ := pair
  dsimp only
  rw [leafText_of_isPlain (hpairs (field, value) hpair).2]

/-- The criteria of a membership in some texts. -/
def membership (field : String) : List String → List Criterion
  | [] => []
  | text :: rest => [⟨field, "in", text :: rest⟩]

theorem addCriterion_membership (field value : String) (texts : List String) :
    addCriterion field "in" value (membership field texts) =
      membership field (texts ++ [value]) := by
  cases texts with
  | nil => rfl
  | cons text rest => rw [membership, addCriterion, if_pos ⟨rfl, rfl⟩]; rfl

/-- A membership in no text is met by every row, one in some texts by the rows whose field has one.
-/
theorem meetsAll_membership (field : String) (texts : List String) (row : Json) :
    meetsAll (membership field texts) row =
      (texts.isEmpty || texts.contains (row.textAt field)) := by
  cases texts with
  | nil => rfl
  | cons text rest =>
    rw [membership, meetsAll, List.all_cons, List.all_nil, Bool.and_true, List.isEmpty_cons,
      Bool.false_or, Criterion.holds, if_pos (.inr rfl)]
    rfl

/-- The values of a membership that have no parts are added to one criterion, and the others add
none. -/
theorem foldl_values {field : String} (h : Unbroken field) (values : List Json) (i : Nat)
    (texts : List String) :
    (flattenItems (bracket (bracket "filter" field) "in") i values).foldl (fun acc pair =>
        match criterionKey? pair.1 with
        | some (field, op) => addCriterion field op pair.2 acc
        | none => acc) (membership field texts) =
      membership field (texts ++ (values.filter Json.isLeaf).map leafText) := by
  induction values generalizing i texts with
  | nil => rw [flattenItems, List.foldl_nil, List.filter_nil, List.map_nil, List.append_nil]
  | cons v rest ih =>
    rw [flattenItems, List.foldl_append]
    by_cases hv : v.isLeaf
    · rw [flatten_of_isLeaf hv, List.foldl_cons, List.foldl_nil, criterionKey?_in h]
      dsimp only
      rw [addCriterion_membership, ih, List.filter_cons_of_pos hv, List.map_cons, List.append_assoc]
      rfl
    · have hnone : ∀ pair ∈ flatten
          (bracket (bracket (bracket "filter" field) "in") (toString i)) v,
          criterionKey? pair.1 = none := by
        intro pair hpair
        obtain ⟨below, hbelow⟩ := key_of_mem_parts (Bool.eq_false_iff.mpr hv) hpair
        rw [hbelow]
        exact criterionKey?_below h i below
      rw [foldl_of_none hnone, ih, List.filter_cons_of_neg hv]

/-- The membership of a field in some values is met by the rows whose field has the text that one of
those without parts is sent as, and by every row if there is none of these. -/
theorem meetsAll_member {field : String} (h : Unbroken field) (values : List Json) (row : Json) :
    meetsAll (criteria (filterPairs (Filter.field field "in" (.list values)))) row =
      (((values.filter Json.isLeaf).map leafText).isEmpty ||
        ((values.filter Json.isLeaf).map leafText).contains (row.textAt field)) := by
  have hcriteria : criteria (filterPairs (Filter.field field "in" (.list values))) =
      membership field ((values.filter Json.isLeaf).map leafText) := by
    rw [filterPairs, Filter.field, Filter.single, Filter.single, flattenMembers, flattenMembers,
      flatten, flattenMembers, flattenMembers, flatten, List.append_nil, List.append_nil, criteria]
    exact foldl_values h values 0 []
  rw [hcriteria, meetsAll_membership]

/-- Comparisons for equality that are joined by `or` are met by every row. -/
theorem criteria_joined {parts : List Filter}
    (hparts : ∀ f ∈ parts, ∀ entry ∈ f, ∃ v : Json, v.isPlain ∧
      entry.2 = .object (Filter.single "eq" v)) :
    criteria (filterPairs (Filter.joined .or parts)) = [] := by
  have hmembers : ∀ (i : Nat) (f : Filter), (∀ entry ∈ f, ∃ v : Json, v.isPlain ∧
      entry.2 = .object (Filter.single "eq" v)) →
      ∀ pair ∈ flattenMembers (bracket (bracket "filter" "or") (toString i)) f,
        criterionKey? pair.1 = none := by
    intro i f hf pair hpair
    rw [flattenMembers_eq_flatMap, List.mem_flatMap] at hpair
    obtain ⟨⟨field, body⟩, hentry, hpair⟩ := hpair
    obtain ⟨v, hv, hbody⟩ := hf _ hentry
    dsimp only at hbody hpair
    rw [hbody, flatten, Filter.single, flattenMembers, flattenMembers, List.append_nil,
      flatten_of_isPlain hv, List.mem_singleton] at hpair
    rw [hpair]
    exact criterionKey?_nested i field
  have hitems : ∀ (i : Nat), ∀ pair ∈ flattenItems (bracket "filter" "or") i (parts.map .object),
      criterionKey? pair.1 = none := by
    induction parts with
    | nil =>
      intro i pair hpair
      rw [List.map_nil, flattenItems] at hpair
      cases hpair
    | cons f rest ih =>
      intro i pair hpair
      rw [List.map_cons, flattenItems, flatten] at hpair
      rcases List.mem_append.mp hpair with hpair | hpair
      · exact hmembers i f (hparts f List.mem_cons_self) pair hpair
      · exact ih (fun f hf => hparts f (List.mem_cons_of_mem _ hf)) _ pair hpair
  apply criteria_of_none
  intro pair hpair
  unfold Filter.joined at hpair
  split at hpair
  · cases hpair
  · rw [filterPairs, Filter.single, flattenMembers, flattenMembers, flatten,
      List.append_nil] at hpair
    exact hitems 0 pair hpair

end Store

end RestQuery
