/-!
# Cutting a text at a separator

`cut` and `cutLast` divide a text at the first and at the last occurrence of a character, `pieces`
at every one. `piecesAtPair` does the same for a separator of two characters.
-/

namespace RestQuery.Text

/-- The parts before and after the first `sep`. -/
def cutChars (sep : Char) : List Char → Option (List Char × List Char)
  | [] => none
  | c :: rest =>
    if c = sep then some ([], rest)
    else (cutChars sep rest).map fun (before, after) => (c :: before, after)

/-- What `cutChars` returns are the two sides of the separator. -/
theorem eq_of_cutChars {sep : Char} {cs before after : List Char}
    (h : cutChars sep cs = some (before, after)) : cs = before ++ sep :: after := by
  induction cs generalizing before with
  | nil => simp [cutChars] at h
  | cons c rest ih =>
    by_cases hc : c = sep
    · simp [cutChars, hc] at h
      simp [← h.1, ← h.2, hc]
    · simp only [cutChars, hc, if_false, Option.map_eq_some_iff, Prod.mk.injEq] at h
      obtain ⟨⟨before', after'⟩, hcut, rfl, rfl⟩ := h
      simp [ih hcut]

/-- The parts of a text before and after the last `sep`. -/
def cutLast (sep : Char) (s : String) : Option (String × String) :=
  (cutChars sep s.toList.reverse).map fun (after, before) =>
    (String.ofList before.reverse, String.ofList after.reverse)

/-- The pieces between the occurrences of `sep`; there is always one more piece than separators. -/
def piecesOf (sep : Char) : List Char → List (List Char)
  | [] => [[]]
  | c :: rest =>
    if c = sep then [] :: piecesOf sep rest
    else match piecesOf sep rest with
      | [] => [[c]]
      | piece :: more => (c :: piece) :: more

/-- The pieces of a text between the occurrences of `sep`. -/
def pieces (sep : Char) (s : String) : List String :=
  (piecesOf sep s.toList).map String.ofList

theorem piecesOf_ne_nil (sep : Char) (cs : List Char) : piecesOf sep cs ≠ [] := by
  cases cs with
  | nil => exact nofun
  | cons c rest =>
    unfold piecesOf
    split
    · exact nofun
    · split <;> exact nofun

/-- A text has at least one piece. -/
theorem pieces_ne_nil (sep : Char) (s : String) : pieces sep s ≠ [] :=
  fun h => piecesOf_ne_nil sep s.toList (List.map_eq_nil_iff.mp h)

/-- The pieces between the occurrences of the two characters `a`, `b` in a row, taken from the
left. -/
def piecesAtPair (a b : Char) : List Char → List (List Char)
  | [] => [[]]
  | [c] => [[c]]
  | c :: d :: rest =>
    if c = a ∧ d = b then [] :: piecesAtPair a b rest
    else match piecesAtPair a b (d :: rest) with
      | [] => [[c]]
      | piece :: more => (c :: piece) :: more

end RestQuery.Text
