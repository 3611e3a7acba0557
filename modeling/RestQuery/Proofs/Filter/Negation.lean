import Mathlib.Data.Nat.Basic
import Mathlib.Order.Lattice
import RestQuery.Proofs.Filter.Meaning

/-!
# Negated comparisons

A range, a membership and a list of patterns can be negated, each in its own way: a range becomes
the two ranges outside of it, a membership another operator, and patterns get a `not` around them.
`Interpretation.ofRecord` reads comparisons of a record in a linear order, with patterns matched in
any way, and `Condition.Complements` says that under an interpretation the filter of the negated
condition is the complement of that of the plain one.

Memberships and patterns are complemented. Of a range both forms are strict, so that a value at one
of its ends is neither inside nor outside of it; everywhere else they are complements, and a range
without values between its ends has all values outside (`Condition.complements_of_negation`).
-/

namespace RestQuery

namespace Interpretation

variable {α : Type} [LinearOrder α]

/-- Whether a value of an order compares with another by the operator of a name. -/
def relates (op : String) (own other : α) : Bool :=
  match op with
  | "eq" => own = other
  | "neq" => own ≠ other
  | "lt" => own < other
  | "gt" => other < own
  | "lte" => own ≤ other
  | "gte" => other ≤ own
  | _ => false

/-- Whether some values have one that reads as a given one. -/
def holdsOwn (read : Json → Option α) (own : α) : Json → Bool
  | .list items => items.any fun item => read item = some own
  | _ => false

/-- How the fields of a record compare. Their values are read in an order, and one that does not
read in it compares with nothing; patterns match in any way. -/
def ofRecord (read : Json → Option α) (isLike : String → Json → Bool) (record : KeyMap Json) :
    Interpretation := fun field op value =>
  match op, (KeyMap.get? record field).bind read with
  | "like", _ => isLike field value
  | _, none => false
  | "in", some own => holdsOwn read own value
  | "nin", some own => !holdsOwn read own value
  | op, some own => (read value).any (relates op own)

variable {read : Json → Option α} {isLike : String → Json → Bool} {record : KeyMap Json}
  {field : String} {own : α}

/-- A value that reads in the order is compared in it. -/
theorem ofRecord_lt (hown : (KeyMap.get? record field).bind read = some own) {value : Json} {a : α}
    (h : read value = some a) :
    ofRecord read isLike record field "lt" value = decide (own < a) := by
  simp [ofRecord, relates, hown, h]

theorem ofRecord_gt (hown : (KeyMap.get? record field).bind read = some own) {value : Json} {a : α}
    (h : read value = some a) :
    ofRecord read isLike record field "gt" value = decide (a < own) := by
  simp [ofRecord, relates, hown, h]

/-- A value that reads in the order is in a list or not. -/
theorem ofRecord_nin (hown : (KeyMap.get? record field).bind read = some own) (value : Json) :
    ofRecord read isLike record field "nin" value =
      !ofRecord read isLike record field "in" value := by
  simp [ofRecord, hown]

end Interpretation

namespace Condition

/-- Whether the filter of a condition with its negation set holds exactly if the one without does
not. -/
def Complements (I : Interpretation) (params : Parameters) (leaf : Bool → Condition) : Prop :=
  ∃ f g, compile params (leaf false) = .ok f ∧ compile params (leaf true) = .ok g ∧
    Filter.holds I g = !Filter.holds I f

section

variable {I : Interpretation} {params : Parameters} {leaf : Bool → Condition}

/-- The filters of a condition that compiles are complements exactly if its meanings are. -/
theorem complements_iff (hnamed : ∀ negated, (leaf negated).WellNamed)
    (hcompiles : ∀ negated, ∃ f, compile params (leaf negated) = .ok f) :
    Complements I params leaf ↔ meaning I params (leaf true) = !meaning I params (leaf false) := by
  obtain ⟨f, hf⟩ := hcompiles false
  obtain ⟨g, hg⟩ := hcompiles true
  rw [← holds_of_compile (hnamed false) hf, ← holds_of_compile (hnamed true) hg]
  constructor
  · rintro ⟨f', g', hf', hg', h⟩
    rw [hf] at hf'
    rw [hg] at hg'
    cases hf'
    cases hg'
    exact h
  · exact fun h => ⟨f, g, hf, hg, h⟩

/-- Patterns are complemented by a `not` around them. -/
theorem complements_like {field : String} (hfield : Filter.isField field) {patterns : List Json}
    (hne : patterns ≠ []) (connective : Connective) :
    Complements I params (.like field patterns connective) := by
  have hnamed : ∀ negated, WellNamed (.like field patterns connective negated) := fun _ => hfield
  rw [complements_iff hnamed fun _ => ⟨_, rfl⟩, meaning, meaning,
    List.isEmpty_eq_false_iff.mpr hne]
  simp

end

section

variable {α : Type} [LinearOrder α] {read : Json → Option α} {isLike : String → Json → Bool}
  {record : KeyMap Json} {params : Parameters} {field : String} {own : α}

/-- Memberships are complemented by the other operator. -/
theorem complements_member (hfield : Filter.isField field)
    (hown : (KeyMap.get? record field).bind read = some own) {values : List Json}
    (hne : values ≠ []) :
    Complements (.ofRecord read isLike record) params (.member field values) := by
  have hnamed : ∀ negated, WellNamed (.member field values negated) := fun _ => hfield
  have hcompiles : ∀ negated, ∃ f, compile params (.member field values negated) = .ok f := by
    intro negated
    rw [compile, Filter.member, if_neg (by simpa using hne)]
    exact ⟨_, rfl⟩
  rw [complements_iff hnamed hcompiles, meaning, meaning]
  exact Interpretation.ofRecord_nin hown _

/-- What the two forms of a range say of a value in the order. -/
theorem meaning_between (isLike : String → Json → Bool)
    (hown : (KeyMap.get? record field).bind read = some own)
    {start stop : Json} {a b : α} (hstart : read (resolve params start) = some a)
    (hstop : read (resolve params stop) = some b) :
    meaning (.ofRecord read isLike record) params (.between field start stop false) =
        decide (a < own ∧ own < b) ∧
      meaning (.ofRecord read isLike record) params (.between field start stop true) =
        decide (own < a ∨ b < own) := by
  rw [meaning, meaning, Interpretation.ofRecord_gt hown hstart,
    Interpretation.ofRecord_lt hown hstop, Interpretation.ofRecord_lt hown hstart,
    Interpretation.ofRecord_gt hown hstop]
  exact ⟨(Bool.decide_and ..).symm, (Bool.decide_or ..).symm⟩

/-- The filters of a range compile. -/
theorem exists_compile_between (params : Parameters) (field : String) (start stop : Json)
    (negated : Bool) : ∃ f, compile params (.between field start stop negated) = .ok f := by
  cases negated <;> exact ⟨_, rfl⟩

/-- The filters of a range are complements for a value that is not at one of its ends. -/
theorem complements_between_iff (hfield : Filter.isField field)
    (hown : (KeyMap.get? record field).bind read = some own) {start stop : Json} {a b : α}
    (hstart : read (resolve params start) = some a) (hstop : read (resolve params stop) = some b) :
    Complements (.ofRecord read isLike record) params (.between field start stop) ↔
      ¬ (a ≤ b ∧ (own = a ∨ own = b)) := by
  have hnamed : ∀ negated, WellNamed (.between field start stop negated) := fun _ => hfield
  obtain ⟨hinside, houtside⟩ := meaning_between isLike hown hstart hstop
  rw [complements_iff hnamed (exists_compile_between params field start stop), hinside, houtside,
    ← decide_not, decide_eq_decide]
  constructor
  · rintro hcomplement ⟨hle, rfl | rfl⟩
    · exact absurd (hcomplement.mpr fun h => lt_irrefl _ h.1) (by simp [hle])
    · exact absurd (hcomplement.mpr fun h => lt_irrefl _ h.2) (by simp [hle])
  · intro hends
    refine ⟨?_, fun hnotInside => ?_⟩
    · rintro (hbelow | habove) ⟨hstart, hstop⟩
      · exact lt_asymm hbelow hstart
      · exact lt_asymm habove hstop
    · -- A value that is neither inside nor outside lies at an end.
      by_contra hnotOutside
      obtain ⟨hbelow, habove⟩ := not_or.mp hnotOutside
      have hstart : a ≤ own := not_lt.mp hbelow
      have hstop : own ≤ b := not_lt.mp habove
      refine hends ⟨hstart.trans hstop, ?_⟩
      rcases hstart.eq_or_lt with heq | hlt
      · exact .inl heq.symm
      · exact .inr (hstop.eq_or_lt.resolve_right fun h => hnotInside ⟨hlt, h⟩)

/-- A value at an end of a range is neither inside nor outside of it. -/
theorem holds_between_end (hfield : Filter.isField field)
    (hown : (KeyMap.get? record field).bind read = some own) {start stop : Json} {a b : α}
    (hstart : read (resolve params start) = some a) (hstop : read (resolve params stop) = some b)
    (hend : a ≤ b ∧ (own = a ∨ own = b)) {negated : Bool} {f : Filter}
    (h : compile params (.between field start stop negated) = .ok f) :
    Filter.holds (.ofRecord read isLike record) f = false := by
  have hnamed : WellNamed (.between field start stop negated) := hfield
  obtain ⟨hinside, houtside⟩ := meaning_between isLike hown hstart hstop
  rw [holds_of_compile hnamed h]
  obtain ⟨hle, rfl | rfl⟩ := hend
  · cases negated with
    | false => exact hinside.trans (decide_eq_false fun hin => lt_irrefl _ hin.1)
    | true => exact houtside.trans (decide_eq_false (by simp [hle]))
  · cases negated with
    | false => exact hinside.trans (decide_eq_false fun hin => lt_irrefl _ hin.2)
    | true => exact houtside.trans (decide_eq_false (by simp [hle]))

end

/-- What negation does to the conditions that have it, for a record whose value is in an order.
Memberships and patterns become their complements. A range becomes its complement except for a value
at one of its ends, for which neither form holds. -/
theorem complements_of_negation {α : Type} [LinearOrder α] (read : Json → Option α)
    (isLike : String → Json → Bool) (record : KeyMap Json) (params : Parameters) {field : String}
    (hfield : Filter.isField field) :
    let I := Interpretation.ofRecord read isLike record
    (∀ own, (KeyMap.get? record field).bind read = some own →
      (∀ start stop a b, read (resolve params start) = some a →
        read (resolve params stop) = some b →
          (Complements I params (.between field start stop) ↔
            ¬ (a ≤ b ∧ (own = a ∨ own = b))) ∧
          (a ≤ b ∧ (own = a ∨ own = b) → ∀ negated f,
            compile params (.between field start stop negated) = .ok f →
              Filter.holds I f = false)) ∧
      ∀ values, values ≠ [] → Complements I params (.member field values)) ∧
    ∀ patterns connective, patterns ≠ [] →
      Complements I params (.like field patterns connective) := by
  intro I
  refine ⟨fun own hown => ⟨fun start stop a b hstart hstop => ⟨?_, fun hend negated f h => ?_⟩,
    fun values hne => complements_member hfield hown hne⟩,
    fun patterns connective hne => complements_like hfield hne connective⟩
  · exact complements_between_iff hfield hown hstart hstop
  · exact holds_between_end hfield hown hstart hstop hend h

/-- An age between two others, among some values, and next to patterns. -/
theorem complements_of_negation_age :
    let record : KeyMap Json := [("age", .nat 30)]
    let params : Parameters := [(":adult", .nat 18)]
    let I := Interpretation.ofRecord Json.nat? (fun _ pattern => pattern == .text "a%") record
    Filter.isField "age" = true ∧ (KeyMap.get? record "age").bind Json.nat? = some 30 ∧
      Json.nat? (resolve params (.text ":adult")) = some 18 ∧
      Json.nat? (resolve params (.nat 65)) = some 65 ∧
      Complements I params (.between "age" (.text ":adult") (.nat 65)) ∧
      Complements I params (.member "age" [.nat 30, .text ":adult"]) ∧
      Complements I params (.like "age" [.text "a%", .text "b%"] .or) := by
  intro record params I
  have hfield : Filter.isField "age" = true := by decide
  have hown : (KeyMap.get? record "age").bind Json.nat? = some 30 := by decide +kernel
  have hstart : Json.nat? (resolve params (.text ":adult")) = some 18 := by decide +kernel
  have hstop : Json.nat? (resolve params (.nat 65)) = some 65 := by decide +kernel
  obtain ⟨hcompared, hlike⟩ :=
    complements_of_negation Json.nat? (fun _ pattern => pattern == .text "a%") record params hfield
  obtain ⟨hbetween, hmember⟩ := hcompared 30 hown
  exact ⟨hfield, hown, hstart, hstop, (hbetween _ _ 18 65 hstart hstop).1.mpr (by decide),
    hmember _ (List.cons_ne_nil _ _), hlike _ _ (List.cons_ne_nil _ _)⟩

/-- Eighteen is neither between eighteen and sixty-five nor outside. -/
theorem not_complements_at_end :
    let record : KeyMap Json := [("age", .nat 18)]
    let I := Interpretation.ofRecord Json.nat? (fun _ _ => false) record
    Filter.isField "age" = true ∧ (KeyMap.get? record "age").bind Json.nat? = some 18 ∧
      Json.nat? (resolve [] (.nat 18)) = some 18 ∧ Json.nat? (resolve [] (.nat 65)) = some 65 ∧
      ¬ Complements I [] (.between "age" (.nat 18) (.nat 65)) := by
  intro record I
  have hfield : Filter.isField "age" = true := by decide
  have hown : (KeyMap.get? record "age").bind Json.nat? = some 18 := by decide +kernel
  have hstart : Json.nat? (resolve [] (.nat 18)) = some 18 := by decide +kernel
  have hstop : Json.nat? (resolve [] (.nat 65)) = some 65 := by decide +kernel
  refine ⟨hfield, hown, hstart, hstop, fun h => ?_⟩
  exact (complements_between_iff hfield hown hstart hstop).mp h ⟨by decide, .inl rfl⟩

end Condition

end RestQuery
