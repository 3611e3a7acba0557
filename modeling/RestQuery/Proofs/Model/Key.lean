import RestQuery.Model.Basic

/-!
# Keys without a character

Only the empty text is written as an empty key (`Json.keyText_eq_empty_iff`): every other value has
at least one character, and a key of several parts has a comma. So the key of a record is empty
exactly if its type has no primary key, or one of a single field that holds the empty text
(`Model.keySegment?_eq_empty_iff`). Any other key is a segment of at least one character
(`Key.segment_ne_empty`).
-/

namespace RestQuery

namespace Decimal

/-- A number has at least one character where what ends a whole number has. -/
theorem Layout.render_ne_empty {l : Layout} (h : l.wholeEnd ≠ "") (x : Double) :
    l.render x ≠ "" := by
  have hpositive : ∀ d, l.renderPositive d ≠ "" := by
    intro d
    unfold renderPositive
    -- Every form has a part that is not empty: the end of a whole number, a point, or an `e`.
    dsimp only
    split
    · split
      · simp [h]
      · split <;> simp
    · simp
  unfold render
  split <;> split <;> simp [h, hpositive]

end Decimal

namespace Json

/-- A number has at least one character. -/
theorem Number.text_ne_empty (n : Number) : n.text ≠ "" := by
  cases n with
  | whole n =>
    cases n with
    | ofNat n => simp [text, Int.repr, Nat.repr]
    | negSucc n => simp [text, Int.repr]
  | real x => exact Decimal.Layout.render_ne_empty (by decide) x

/-- A value is written with at least one character. -/
theorem compact_ne_empty (v : Json) : v.compact ≠ "" := by
  cases v with
  | null => simp [compact]
  | bool b => cases b <;> simp [compact]
  | number n => simp [compact, n.text_ne_empty]
  | text s => simp [compact, quote]
  | list items => simp [compact]
  | object members => simp [compact]

/-- Only the empty text is written as a key without characters. -/
theorem keyText_eq_empty_iff (v : Json) : v.keyText = "" ↔ v = .text "" := by
  cases v with
  | text s => simp [keyText]
  | _ => simp [keyText, compact_ne_empty]

end Json

namespace Key

/-- A key is empty if it has no part, or the only one is the empty text. -/
theorem text_eq_empty_iff (values : List Json) :
    text values = "" ↔ values = [] ∨ values = [.text ""] := by
  match values with
  | [] => simp [text]
  | [v] => simp [text, Json.keyText_eq_empty_iff]
  | v :: v' :: rest => simp [text]

/-- A key with a character is a segment with one. -/
theorem segment_ne_empty {key : String} (h : key ≠ "") : segment key ≠ "" := by
  have hchars : key.toList ≠ [] := by simpa using h
  obtain ⟨c, rest, hkey⟩ := List.exists_cons_of_ne_nil hchars
  have hbytes : String.utf8EncodeChar c ≠ [] := by
    exact String.utf8EncodeChar_ne_nil
  obtain ⟨b, bytes, hc⟩ := List.exists_cons_of_ne_nil hbytes
  have hbyte : Text.encodeByte isPlain b ≠ [] := by
    unfold Text.encodeByte
    dsimp only
    split <;> simp
  simp [segment, Text.percentEncode, Text.utf8Bytes, hkey, hc, hbyte]

end Key

namespace Model

/-- A key has a value for each field of the primary key. -/
theorem length_of_keyOf? {s : Schema} {attributes : KeyMap Json} {values : List Json}
    (h : keyOf? s attributes = some values) : values.length = s.primaryKey.length := by
  unfold keyOf? at h
  generalize s.primaryKey = fields at h
  induction fields generalizing values with
  | nil =>
    cases h
    rfl
  | cons field rest ih =>
    simp only [List.mapM_cons, Option.bind_eq_bind, Option.bind_eq_some_iff] at h
    obtain ⟨value, -, others, hothers, heq⟩ := h
    cases heq
    rw [List.length_cons, List.length_cons, ih hothers]

/-- The key of a record is empty exactly if its type has no primary key, or one of a single field
that holds the empty text. -/
theorem keySegment?_eq_empty_iff (m : Model) :
    m.keySegment? = some "" ↔ m.schema.primaryKey = [] ∨
      ∃ field, m.schema.primaryKey = [field] ∧
        KeyMap.get? (m.snapshot.getD m.attributes) field = some (.text "") := by
  unfold keySegment?
  generalize m.snapshot.getD m.attributes = held
  rw [Option.map_eq_some_iff]
  constructor
  · rintro ⟨values, hkey, htext⟩
    have hlength := length_of_keyOf? hkey
    rcases (Key.text_eq_empty_iff values).mp htext with rfl | rfl
    · exact .inl (List.eq_nil_of_length_eq_zero hlength.symm)
    · obtain ⟨field, hfield⟩ := List.length_eq_one_iff.mp hlength.symm
      refine .inr ⟨field, hfield, ?_⟩
      rw [keyOf?, hfield] at hkey
      cases hvalue : KeyMap.get? held field with
      | none => simp [hvalue, Json.present?] at hkey
      | some value => cases value <;> simp_all [Json.present?]
  · rintro (hfields | ⟨field, hfields, hvalue⟩)
    · exact ⟨[], by rw [keyOf?, hfields]; rfl, rfl⟩
    · refine ⟨[.text ""], ?_, rfl⟩
      rw [keyOf?, hfields]
      simp [hvalue, Json.present?]

end Model
end RestQuery
