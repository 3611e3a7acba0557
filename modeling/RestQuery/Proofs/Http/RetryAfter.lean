import RestQuery.Retry

/-!
# How long a server can suggest to wait

Whatever stands in the header `Retry-After`, the wait that it suggests is a span of time that is
counted. `suggestedWait?_le` is the bound: a number of seconds has 64 bits, and no date is later
than the last day of the calendar.
-/

namespace RestQuery.Http

open Text

namespace Date

/-- An instant that is computed lies in the calendar, in some second of its day. -/
theorem bounds_of_instant? {weekday : Option Nat} {date clock : Int} {leap : Bool} {i : Instant}
    (h : instant? weekday date clock leap = some i) :
    i.day ≤ dayNumber lastYear 12 31 ∧ i.second < 86400 := by
  unfold instant? at h
  dsimp only at h
  split at h
  · cases h
  · rename_i hday
    have hlast : ¬ dayNumber lastYear 12 31 < date + clock.fdiv 86400 := by
      intro hlt
      exact hday (by simp [hlt])
    cases h
    have hmod : clock.fmod 86400 < 86400 := Int.fmod_lt_of_pos _ (by omega)
    dsimp only
    constructor <;> omega

/-- An instant that is read lies in the calendar, in some second of its day. -/
theorem bounds_of_parse? {s : String} {i : Instant} (h : parse? s = some i) :
    i.day ≤ dayNumber lastYear 12 31 ∧ i.second < 86400 := by
  unfold parse? at h
  simp only [Option.bind_eq_bind, Option.bind_eq_some_iff] at h
  obtain ⟨weekday, -, day, -, _, -, month, -, _, -, year, -, _, -, clock, -, _, -, zone, -, h⟩ := h
  -- What is left are the checks of the parts, each of which gives up or goes on.
  split at h
  · cases h
  split at h
  · cases h
  split at h
  · cases h
  exact bounds_of_instant? h

end Date

/-- The first moment of the calendar, in milliseconds since 1970. -/
def firstMoment : Int := Date.dayNumber (-262143) 1 1 * 86400000

/-- From no moment of the calendar it is longer than that to an instant that lies in it. -/
theorem millisecondsFrom_le {moment : Int} {i : Instant} (hmoment : firstMoment ≤ moment)
    (hday : i.day ≤ Date.dayNumber Date.lastYear 12 31) (hsecond : i.second < 86400) :
    i.millisecondsFrom moment ≤ Retry.longestSpan := by
  have hfirst : firstMoment = -8334601228800000 := rfl
  have hlast : Date.dayNumber Date.lastYear 12 31 = 95026236 := rfl
  have hspan : (Retry.longestSpan : Int) = 18446744073709551615999 := rfl
  rw [hfirst] at hmoment
  rw [hlast] at hday
  rw [hspan]
  unfold Instant.millisecondsFrom
  dsimp only
  split <;> omega

/-- A suggested wait is counted, whatever the header holds. -/
theorem suggestedWait?_le {moment : Int} (hmoment : firstMoment ≤ moment) {value : String}
    {wait : Nat} (h : suggestedWait? moment value = some wait) : wait ≤ Retry.longestSpan := by
  unfold suggestedWait? at h
  dsimp only at h
  split at h
  · cases h
  split at h
  · rename_i seconds hseconds
    have hbound : seconds ≤ maxWord64 := by
      have := Option.mem_filter_iff.mp hseconds
      simpa using this.2
    cases h
    unfold Retry.longestSpan
    omega
  · obtain ⟨i, hi, rfl⟩ := Option.map_eq_some_iff.mp h
    obtain ⟨hday, hsecond⟩ := Date.bounds_of_parse? hi
    have := millisecondsFrom_le hmoment hday hsecond
    omega

end RestQuery.Http
