import Mathlib.Algebra.Order.Ring.Nat
import RestQuery.Retry

/-!
# The arithmetic of retries

The factor of a wait is a power cut off at the largest number of 32 bits, although the policy stops
multiplying after thirty-two factors (`growth_eq`). Whether there is a further attempt is a matter
of four conditions: `nextWait?_eq_some_iff` and `nextWait?_eq_none_iff` read the decision both ways.
-/

namespace RestQuery.Retry

open Text

/-- What the fields of a policy can be: its counts have 32 bits, its times have 64. -/
structure Policy.WordSized (p : Policy) : Prop where
  maxRetries : p.maxRetries ≤ maxWord32
  maxTotalWait : p.maxTotalWait ≤ maxWord64
  baseInterval : p.baseInterval ≤ maxWord64
  multiplier : p.multiplier ≤ maxWord32

namespace Policy

/-! ## The growth of waits -/

/-- A power that stays at a bound is the lesser of the power and the bound. -/
theorem boundedPower_eq (most base exponent : Nat) :
    boundedPower most base exponent = min most (base ^ exponent) := by
  induction exponent with
  | zero => rfl
  | succ n ih =>
    rw [boundedPower, ih, Nat.pow_succ]
    by_cases hle : base ^ n ≤ most
    · rw [Nat.min_eq_right hle]
    · -- The bound is exceeded already, and a further factor brings the power below it only if the
      -- base is zero, when no power exceeds anything but zero.
      have hmin : min most (base ^ n) = most := by omega
      rw [hmin]
      rcases Nat.eq_zero_or_pos base with rfl | hbase
      · cases n with
        | zero => 
          have : most = 0 := by omega
          simp [this]
        | succ m => simp at hle
      · have h₁ : most ≤ most * base := Nat.le_mul_of_pos_right most hbase
        have h₂ : base ^ n ≤ base ^ n * base := Nat.le_mul_of_pos_right _ hbase
        omega

/-- Thirty-three factors are enough: the factor of a wait is the power, cut off. -/
theorem growth_eq (base exponent : Nat) :
    growth base exponent = min maxWord32 (base ^ exponent) := by
  rw [growth, boundedPower_eq]
  by_cases hle : exponent ≤ 33
  · rw [Nat.min_eq_left hle]
  · have hcut : min exponent 33 = 33 := by omega
    rw [hcut]
    obtain rfl | rfl | hbase : base = 0 ∨ base = 1 ∨ 2 ≤ base := by omega
    · rw [Nat.zero_pow (by omega : 0 < 33), Nat.zero_pow (by omega : 0 < exponent)]
    · rw [Nat.one_pow, Nat.one_pow]
    · have hword : maxWord32 ≤ 2 ^ 33 := by decide
      have hpower : 2 ^ 33 ≤ base ^ 33 := Nat.pow_le_pow_left hbase 33
      have hmore : base ^ 33 ≤ base ^ exponent := Nat.pow_le_pow_right (by omega) (by omega)
      rw [Nat.min_eq_left (by omega), Nat.min_eq_left (by omega)]

/-- The wait after so many retries, if another is due: what the server suggests, or the base
interval times a power of the multiplier if that is longer. -/
def wantedWait (p : Policy) (retries : Nat) (suggested : Option Nat) : Nat :=
  max (suggested.getD 0)
    (min maxWord64 (p.baseInterval * min maxWord32 (p.multiplier ^ retries)))

/-- The interval before a retry is the wait that is wanted after those before it. -/
theorem interval_succ (p : Policy) (retries : Nat) (suggested : Option Nat) :
    p.interval (retries + 1) suggested = p.wantedWait retries suggested := by
  have hbackoff : p.backoff (retries + 1) =
      min maxWord64 (p.baseInterval * min maxWord32 (p.multiplier ^ retries)) := by
    rw [backoff, growth_eq, Nat.add_sub_cancel]
  rw [wantedWait, ← hbackoff]
  cases suggested with
  | none => simp only [interval, Option.getD_none, Nat.zero_max]
  | some wait => rfl

/-- A wait is counted if the suggested one is. -/
theorem wantedWait_le {suggested : Option Nat}
    (h : ∀ wait, suggested = some wait → wait ≤ longestSpan) (p : Policy) (retries : Nat) :
    p.wantedWait retries suggested ≤ longestSpan := by
  have hword : maxWord64 ≤ longestSpan := by decide
  have hsuggested : suggested.getD 0 ≤ longestSpan := by
    cases suggested with
    | none => exact Nat.zero_le _
    | some wait => exact h wait rfl
  unfold wantedWait
  omega

/-! ## The decision -/

variable {p : Policy} {moment : Int} {e : Error} {retries waited : Nat}

/-- The decision in one condition. A sum of waits that is not counted is no case of its own, since
every budget is counted. -/
theorem nextWait?_eq (hp : p.WordSized) :
    p.nextWait? moment e retries waited =
      if (p.enabled ∧ e.isTransient ∧ retries < p.maxRetries) ∧
          waited + p.nextInterval moment e retries < p.maxTotalWait
      then some (p.nextInterval moment e retries) else none := by
  have hbudget : p.maxTotalWait ≤ longestSpan :=
    Nat.le_trans hp.maxTotalWait (by decide)
  unfold nextWait?
  by_cases hallowed : p.enabled ∧ e.isTransient ∧ retries < p.maxRetries
  · have hguard : (!p.enabled || !e.isTransient || p.maxRetries ≤ retries) = false := by
      simp [hallowed]
    rw [hguard]
    simp only [Bool.false_eq_true, if_false, hallowed, and_self, true_and, addSpans?]
    by_cases hcounted : waited + p.nextInterval moment e retries ≤ longestSpan
    · simp only [if_pos hcounted]
    · have hover : ¬ waited + p.nextInterval moment e retries < p.maxTotalWait := by omega
      simp only [if_neg hcounted, if_neg hover]
  · have hguard : (!p.enabled || !e.isTransient || p.maxRetries ≤ retries) = true := by
      cases hon : p.enabled <;> cases hpasses : e.isTransient <;> simp_all
    rw [if_pos hguard, if_neg (fun h => hallowed h.1)]

/-- There is a further attempt after a wait exactly if the policy is on, the error may pass, not all
retries are used up and the waits stay below the budget together. -/
theorem nextWait?_eq_some_iff (hp : p.WordSized) {wait : Nat} :
    p.nextWait? moment e retries waited = some wait ↔
      (p.enabled ∧ e.isTransient ∧ retries < p.maxRetries) ∧
        wait = p.nextInterval moment e retries ∧ waited + wait < p.maxTotalWait := by
  rw [nextWait?_eq hp]
  split
  · rename_i h
    constructor
    · rintro ⟨⟩
      exact ⟨h.1, rfl, h.2⟩
    · rintro ⟨-, rfl, -⟩
      rfl
  · rename_i h
    constructor
    · rintro ⟨⟩
    · rintro ⟨hallowed, rfl, hbudget⟩
      exact absurd ⟨hallowed, hbudget⟩ h

/-- There is no further attempt exactly if the policy is off, the error does not pass, all retries
are used up or the next wait would bring the waits to the budget. -/
theorem nextWait?_eq_none_iff (hp : p.WordSized) :
    p.nextWait? moment e retries waited = none ↔
      p.enabled = false ∨ e.isTransient = false ∨ p.maxRetries ≤ retries ∨
        p.maxTotalWait ≤ waited + p.nextInterval moment e retries := by
  rw [nextWait?_eq hp, ite_eq_right_iff]
  simp only [reduceCtorEq, imp_false, Classical.not_and_iff_not_or_not, Bool.not_eq_true,
    Nat.not_lt, or_assoc]

/-- The moment of an error matters only where a refusal may name another one. -/
theorem nextWait?_of_refusal?_none (he : e.refusal? = none) (moment' : Int) :
    p.nextWait? moment' e retries waited = p.nextWait? moment e retries waited := by
  simp only [nextWait?, nextInterval, he, Option.bind_none]

end Policy

end RestQuery.Retry
