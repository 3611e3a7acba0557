import RestQuery.Proofs.Model.Rows

/-!
# Rows in strict mode

Strict mode refuses a key that a type does not declare, at any depth of a row, and changes nothing
else. So a row is read in strict mode as it is read otherwise, or it is refused for such a key
(`OnlyRejects`), of the type of the row or of one that relations lead to
(`Catalog.Reaches`). A run of one mode is followed in the other member by member, and the first
difference is the refusal (`Model.onlyRejects_ofRow?`), so strict mode only rejects
(`Model.ofRow?_strict`).
-/

namespace RestQuery

/-- A type that is reached from another by relations, or is that type. -/
inductive Catalog.Reaches (g : Catalog) : Schema → Schema → Prop where
  | refl (s : Schema) : Reaches g s s
  | step {s t : Schema} {r : Relation} (hr : r ∈ s.relations) (h : Reaches g (g.target r) t) :
      Reaches g s t

/-- Whether a key is neither a field of a type nor the key of a relation. -/
def Schema.Undeclared (s : Schema) (key : String) : Prop :=
  s.hasField key = false ∧ ∀ r ∈ s.relations, r.responseKey ≠ key

/-- The error for a key that a type reached from another does not declare. -/
def Catalog.Refuses (g : Catalog) (s : Schema) (e : Error) : Prop :=
  ∃ t key, g.Reaches s t ∧ t.Undeclared key ∧ e = .unknownAttribute t.typeName key

theorem Catalog.Refuses.of_target {g : Catalog} {s : Schema} {r : Relation} {e : Error}
    (h : g.Refuses (g.target r) e) (hr : r ∈ s.relations) : g.Refuses s e := by
  obtain ⟨t, key, hreaches, hkey, rfl⟩ := h
  exact ⟨t, key, .step hr hreaches, hkey, rfl⟩

/-! ## Outcomes that differ by a refusal -/

/-- Whether an outcome is another one, or else a certain error. -/
def OnlyRejects {α : Type} (P : Error → Prop) (x x' : Except Error α) : Prop :=
  x = x' ∨ ∃ e, x = .error e ∧ P e

namespace OnlyRejects

variable {α β : Type} {P Q : Error → Prop} {x x' : Except Error α}

theorem mono (h : OnlyRejects P x x') (hPQ : ∀ e, P e → Q e) : OnlyRejects Q x x' :=
  h.imp_right fun ⟨e, hx, he⟩ => ⟨e, hx, hPQ e he⟩

/-- Two sequences differ by a refusal if their parts do. -/
theorem bind (h : OnlyRejects P x x') {f f' : α → Except Error β}
    (hf : ∀ a, OnlyRejects P (f a) (f' a)) : OnlyRejects P (x.bind f) (x'.bind f') := by
  obtain rfl | ⟨e, rfl, he⟩ := h
  · cases x with
    | error e => exact .inl rfl
    | ok a => exact hf a
  · exact .inr ⟨e, rfl, he⟩

theorem map (h : OnlyRejects P x x') (f : α → β) : OnlyRejects P (x.map f) (x'.map f) := by
  obtain rfl | ⟨e, rfl, he⟩ := h
  · exact .inl rfl
  · exact .inr ⟨e, rfl, he⟩

end OnlyRejects

namespace Model

variable {g : Catalog}

mutual

/-- A row is read in strict mode as it is read otherwise, or refused. -/
theorem onlyRejects_ofRow? (g : Catalog) : ∀ (row : Json) (s : Schema),
    OnlyRejects (g.Refuses s) (ofRow? g true s row) (ofRow? g false s row)
  | .object members, s => by
    rw [ofRow?, ofRow?]
    exact (onlyRejects_ofMembers? g members s (new s)).map settle
  | .null, _ | .bool _, _ | .number _, _ | .text _, _ | .list _, _ => .inl rfl

/-- So are the members of a row. -/
theorem onlyRejects_ofMembers? (g : Catalog) : ∀ (members : List (String × Json)) (s : Schema)
    (m : Model), OnlyRejects (g.Refuses s) (ofMembers? g true s m members)
      (ofMembers? g false s m members)
  | [], s, m => by
    rw [ofMembers?, ofMembers?]
    exact .inl rfl
  | (key, value) :: rest, s, m => by
    rw [ofMembers?, ofMembers?]
    cases hkey : s.relationForKey? key with
    | some relation =>
      have hmem : relation ∈ s.relations := List.mem_of_find?_eq_some hkey
      have hpayload := onlyRejects_ofPayload? g value (g.target relation) relation.multiple
      exact (hpayload.mono fun e he => he.of_target hmem).bind fun r =>
        onlyRejects_ofMembers? g rest s (m.attach relation.name r)
    | none =>
      dsimp only
      split
      · exact onlyRejects_ofMembers? g rest s _
      · -- The key is the first that is not declared.
        rename_i hfield
        have hrelation : ∀ r ∈ s.relations, r.responseKey ≠ key := fun r hr heq =>
          List.find?_eq_none.mp hkey r hr (beq_iff_eq.mpr heq)
        exact .inr ⟨_, rfl, s, key, .refl s, ⟨Bool.eq_false_iff.mpr hfield, hrelation⟩, rfl⟩

/-- So is the payload of a relation. -/
theorem onlyRejects_ofPayload? (g : Catalog) : ∀ (row : Json) (s : Schema) (multiple : Bool),
    OnlyRejects (g.Refuses s) (ofPayload? g true s multiple row)
      (ofPayload? g false s multiple row)
  | .object members, s, multiple => by
    rw [ofPayload?, ofPayload?]
    exact (onlyRejects_ofMembers? g members s (new s)).map _
  | .list rows, s, true => (onlyRejects_ofRows? g rows s).map _
  | .list (row :: _), s, false => (onlyRejects_ofRow? g row s).map _
  | .list [], _, false => .inl rfl
  | .null, _, _ | .bool _, _, _ | .number _, _, _ | .text _, _, _ => .inl rfl

/-- So are some rows. -/
theorem onlyRejects_ofRows? (g : Catalog) : ∀ (rows : List Json) (s : Schema),
    OnlyRejects (g.Refuses s) (ofRows? g true s rows) (ofRows? g false s rows)
  | [], s => by
    rw [ofRows?, ofRows?]
    exact .inl rfl
  | row :: rest, s => by
    rw [ofRows?, ofRows?]
    exact (onlyRejects_ofRow? g row s).bind fun m =>
      (onlyRejects_ofRows? g rest s).bind fun ms => .inl rfl

end

/-- Strict mode only rejects. What it reads is read as the same record otherwise, it fails where a
row cannot be read otherwise, and where one can be it fails for a key that a type does not declare.
-/
theorem ofRow?_strict (g : Catalog) (s : Schema) (row : Json) :
    (∀ m, ofRow? g true s row = .ok m → ofRow? g false s row = .ok m) ∧
      (∀ e, ofRow? g false s row = .error e → ∃ e', ofRow? g true s row = .error e') ∧
      ∀ m e, ofRow? g false s row = .ok m → ofRow? g true s row = .error e →
        ∃ t key, g.Reaches s t ∧ t.Undeclared key ∧ e = .unknownAttribute t.typeName key := by
  obtain hsame | ⟨e, hrefused, he⟩ := onlyRejects_ofRow? g row s
  · rw [hsame]
    refine ⟨fun m hm => hm, fun e he => ⟨e, he⟩, fun m e hm he => ?_⟩
    rw [hm] at he
    cases he
  · rw [hrefused]
    refine ⟨nofun, fun _ _ => ⟨e, rfl⟩, fun m e' _ he' => ?_⟩
    obtain rfl := Except.error.inj he'
    exact he

end Model

end RestQuery
