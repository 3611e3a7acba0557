import RestQuery.Error
import RestQuery.Http.RetryAfter

/-!
# When to try again

A request that failed for a passing reason may be sent again after a wait. The waits grow by a
constant factor, unless the server suggests a longer one. A policy bounds the number of retries and
the sum of the waits, which has to stay below the budget.

All times are in milliseconds. Growth and product saturate: the factor at the largest number of 32
bits, the wait at the largest of 64.
-/

namespace RestQuery.Retry

/-- How often and how long to wait for a request to succeed. -/
structure Policy where
  enabled : Bool := false
  /-- The greatest number of retries of one request. -/
  maxRetries : Nat := 1
  /-- What the waits of one request together stay below. -/
  maxTotalWait : Nat := 10000
  /-- The wait before the first retry. -/
  baseInterval : Nat := 250
  /-- By what every further wait grows. -/
  multiplier : Nat := 2
  deriving DecidableEq, Inhabited

/-- The longest span of time that is counted, in milliseconds: its seconds have 64 bits. -/
def longestSpan : Nat := 1000 * Text.maxWord64 + 999

/-- The sum of two spans of time, if it is counted. -/
def addSpans? (first second : Nat) : Option Nat :=
  if first + second ≤ longestSpan then some (first + second) else none

namespace Policy

/-- The default policy, with retries. -/
def active : Policy := { enabled := true }

/-- A power that stays at `most` once it would exceed it. -/
def boundedPower (most base : Nat) : Nat → Nat
  | 0 => min most 1
  | exponent + 1 => min most (boundedPower most base exponent * base)

/-- The power, for bases of up to 32 bits, without multiplying more often than it can grow: from
thirty-two factors on a power is zero, one or above the bound. -/
def growth (base exponent : Nat) : Nat :=
  boundedPower Text.maxWord32 base (min exponent 33)

/-- The wait that the policy itself asks for before a retry, counted from one. -/
def backoff (p : Policy) (attempt : Nat) : Nat :=
  min Text.maxWord64 (p.baseInterval * growth p.multiplier (attempt - 1))

/-- The wait before a retry, counted from one: what the policy asks for or what the server suggests,
whichever is longer. -/
def interval (p : Policy) (attempt : Nat) (suggested : Option Nat) : Nat :=
  match suggested with
  | some wait => max wait (p.backoff attempt)
  | none => p.backoff attempt

/-- The wait before a further attempt after an error at a moment, when so many retries were made. -/
def nextInterval (p : Policy) (moment : Int) (e : Error) (retries : Nat) : Nat :=
  p.interval (retries + 1) (e.refusal?.bind (·.suggestedWait? moment))

/-- The wait before a further attempt, when so many retries were made and so long was waited. There
is none if the policy is off, the error does not pass, the retries are used up, or the waits would
together reach the budget. -/
def nextWait? (p : Policy) (moment : Int) (e : Error) (retries waited : Nat) : Option Nat :=
  if !p.enabled || !e.isTransient || p.maxRetries ≤ retries then none
  else
    let wait := p.nextInterval moment e retries
    match addSpans? waited wait with
    | some total => if total < p.maxTotalWait then some wait else none
    | none => none

/-- The waits that the policy asks for while a request fails in some ways one after another, up to
the first failure after which it allows no retry. -/
def plan (p : Policy) (moment : Int) (retries waited : Nat) : List Error → List Nat
  | [] => []
  | e :: rest =>
    match p.nextWait? moment e retries waited with
    | some wait => wait :: plan p moment (retries + 1) (waited + wait) rest
    | none => []

end Policy

end RestQuery.Retry
