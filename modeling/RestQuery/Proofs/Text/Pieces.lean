import RestQuery.Text.Cut

/-!
# The pieces of a text

A text is cut at a separator into pieces, and put together again from them. What lies between the
separators of two texts with one more separator between them are the pieces of both
(`Text.piecesOf_append`), so the pieces of a list that is written with separators are those of its
parts (`Text.pieces_intercalate`).
-/

namespace RestQuery.Text

variable {sep : Char}

/-- A character that is no separator belongs to the first piece. -/
theorem piecesOf_cons {c : Char} (hc : c ≠ sep) (rest : List Char) :
    ∃ piece more, piecesOf sep rest = piece :: more ∧
      piecesOf sep (c :: rest) = (c :: piece) :: more := by
  obtain ⟨piece, more, hrest⟩ := List.exists_cons_of_ne_nil (piecesOf_ne_nil sep rest)
  exact ⟨piece, more, hrest, by rw [piecesOf, if_neg hc, hrest]⟩

/-- The pieces of two texts with a separator between them are those of the one and of the other. -/
theorem piecesOf_append (before after : List Char) :
    piecesOf sep (before ++ sep :: after) = piecesOf sep before ++ piecesOf sep after := by
  induction before with
  | nil => exact if_pos rfl
  | cons c rest ih =>
    by_cases hc : c = sep
    · rw [List.cons_append, piecesOf, if_pos hc, piecesOf, if_pos hc, ih, List.cons_append]
    · obtain ⟨piece, more, hrest, hcons⟩ := piecesOf_cons hc rest
      obtain ⟨piece', more', hlonger, hcons'⟩ := piecesOf_cons hc (rest ++ sep :: after)
      rw [ih, hrest, List.cons_append] at hlonger
      obtain ⟨rfl, rfl⟩ := List.cons.inj hlonger
      rw [List.cons_append, hcons', hcons, List.cons_append]

/-- A text without a separator is one piece. -/
theorem piecesOf_of_not_mem {cs : List Char} (h : sep ∉ cs) : piecesOf sep cs = [cs] := by
  induction cs with
  | nil => rfl
  | cons c rest ih =>
    have hc : c ≠ sep := fun heq => h (heq ▸ List.mem_cons_self)
    have hrest := ih fun hmem => h (List.mem_cons_of_mem c hmem)
    rw [piecesOf, if_neg hc, hrest]

/-- Put together again with separators, the pieces of a text are the text. -/
theorem intercalate_piecesOf (sep : Char) (cs : List Char) :
    [sep].intercalate (piecesOf sep cs) = cs := by
  induction cs with
  | nil => rfl
  | cons c rest ih =>
    by_cases hc : c = sep
    · obtain ⟨piece, more, hrest⟩ := List.exists_cons_of_ne_nil (piecesOf_ne_nil sep rest)
      rw [piecesOf, if_pos hc, hrest, List.intercalate_cons_cons, ← hrest, ih, hc]
      rfl
    · obtain ⟨piece, more, hrest, hcons⟩ := piecesOf_cons hc rest
      rw [hrest] at ih
      rw [hcons]
      cases more with
      | nil => rw [List.intercalate_singleton] at ih ⊢; rw [ih]
      | cons next others =>
        rw [List.intercalate_cons_cons] at ih ⊢
        rw [← ih, List.cons_append, List.cons_append]

/-- The pieces of a text tell the text. -/
theorem pieces_injective {s t : String} (h : pieces sep s = pieces sep t) : s = t := by
  have hpieces : piecesOf sep s.toList = piecesOf sep t.toList := by
    refine (List.map_inj_right fun a b heq => ?_).mp h
    exact String.ofList_injective heq
  rw [← String.toList_inj, ← intercalate_piecesOf sep s.toList, hpieces,
    intercalate_piecesOf]

/-- The pieces of some texts with separators between them are those of the texts. -/
theorem pieces_intercalate {parts : List String} (h : parts ≠ []) :
    pieces ',' (String.intercalate "," parts) = parts.flatMap (pieces ',') := by
  induction parts with
  | nil => exact absurd rfl h
  | cons part rest ih =>
    cases rest with
    | nil => simp
    | cons next others =>
      have hrest := ih (List.cons_ne_nil next others)
      have hjoined : (String.intercalate "," (part :: next :: others)).toList =
          part.toList ++ ',' :: (String.intercalate "," (next :: others)).toList := by
        simp [String.intercalate_cons_cons]
      rw [pieces, hjoined, piecesOf_append, List.map_append, ← pieces, ← pieces, hrest]
      rfl

end RestQuery.Text
