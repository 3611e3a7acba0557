import RestQuery.Text.Ascii
import RestQuery.Text.Blank

/-!
# Numbers written as digits

Numbers travel as texts: page sizes and pages in query pairs, counts in headers. A number of up to
64 bits that was written is read back (`nat?_toString`), also with blanks trimmed (`trim_toString`).
-/

namespace RestQuery.Text

/-- A blank is no digit. -/
theorem isBlank_eq_false_of_isDigit {c : Char} (h : c.isDigit) : isBlank c = false := by
  have hbounds : 48 ≤ c.toNat ∧ c.toNat ≤ 57 := by
    simp only [Char.isDigit, Bool.and_eq_true, decide_eq_true_eq] at h
    exact ⟨h.1, h.2⟩
  simp only [isBlank, Bool.or_eq_false_iff, Bool.and_eq_false_iff, decide_eq_false_iff_not,
    beq_eq_false_iff_ne]
  omega

/-- The digits of a number are digits. -/
theorem isDigit_of_mem_toDigits {n : Nat} {c : Char} (h : c ∈ Nat.toDigits 10 n) : c.isDigit :=
  Nat.isDigit_of_mem_toDigits (by decide) (by decide) h

/-- The digits of a number are read back. -/
theorem natOfChars?_toDigits (n : Nat) : natOfChars? (Nat.toDigits 10 n) = some n := by
  have hall : (Nat.toDigits 10 n).all Char.isDigit = true := by
    rw [List.all_eq_true]
    exact fun c => isDigit_of_mem_toDigits
  have hvalue : digitsValue 0 (Nat.toDigits 10 n) = n := Nat.ofDigitChars_ten_toDigits
  cases hdigits : Nat.toDigits 10 n with
  | nil => exact absurd hdigits Nat.toDigits_ne_nil
  | cons c rest =>
    rw [hdigits] at hall hvalue
    -- The first digit is no sign.
    have hsign : c ≠ '+' := by
      rintro rfl
      simp [Char.isDigit] at hall
    unfold natOfChars?
    split
    · rename_i heq
      exact absurd (List.cons.inj heq).1 hsign
    · simp only [hall, hvalue, List.isEmpty_cons, Bool.not_true, Bool.or_self, Bool.false_eq_true,
        if_false]

/-- A number that is written is read back, if it does not exceed the bound. -/
theorem nat?_toString {most n : Nat} (h : n ≤ most) : nat? most (toString n) = some n := by
  rw [nat?, Nat.toString_eq_repr, Nat.toList_repr, natOfChars?_toDigits]
  simp [Option.filter, h]

/-- Different numbers are written differently. -/
theorem toString_injective {m n : Nat} (h : toString m = toString n) : m = n := by
  have hm := nat?_toString (Nat.le_max_left m n)
  have hn := nat?_toString (Nat.le_max_right m n)
  rw [h, hn] at hm
  exact (Option.some.inj hm).symm

/-- Nothing is dropped from the ends of a text without characters to drop. -/
theorem stripWhile_eq_self {p : Char → Bool} {cs : List Char} (h : ∀ c ∈ cs, p c = false) :
    stripWhile p cs = cs := by
  have hfront : ∀ {ds : List Char}, (∀ c ∈ ds, p c = false) → ds.dropWhile p = ds := by
    intro ds hds
    cases ds with
    | nil => rfl
    | cons d rest => simp [hds d List.mem_cons_self]
  rw [stripWhile, dropEndWhile, hfront h, hfront (by simpa using h), List.reverse_reverse]

/-- A number that is written has no blanks at its ends. -/
theorem trim_toString (n : Nat) : trim (toString n) = toString n := by
  rw [trim, stripWhile_eq_self, String.ofList_toList]
  intro c hc
  rw [Nat.toString_eq_repr, Nat.toList_repr] at hc
  exact isBlank_eq_false_of_isDigit (isDigit_of_mem_toDigits hc)

end RestQuery.Text
