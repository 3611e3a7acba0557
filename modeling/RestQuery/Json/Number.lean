import RestQuery.Decimal.Shortest

/-!
# Numbers of JSON

A number is whole if it is written without fraction and exponent and fits 64 bits, signed or not;
every other number is a binary64 number. `1` and `1.0` are different numbers.

Reading a number in binary64 takes as many digits as fit 64 bits and multiplies or divides once by
a power of ten, so the last bit is not always that of the nearest number.
-/

namespace RestQuery.Json

/-- A number of JSON. -/
inductive Number where
  /-- A whole number from `-2 ^ 63` to `2 ^ 64 - 1`. -/
  | whole (value : Int)
  /-- Any other number, finite. -/
  | real (value : Double)
  deriving DecidableEq, Inhabited, Repr

namespace Number

/-- Doubles are written without an exponent from `0.00001` to below `10 ^ 16`, always with a point;
outside that range with an exponent whose sign is always shown. -/
def layout : Decimal.Layout := ⟨-5, 15, ".0", "+"⟩

/-- The number as text. -/
def text : Number → String
  | .whole n => toString n
  | .real x => layout.render x

/-- Whether two numbers are equal as values of their kind. -/
def same : Number → Number → Bool
  | .whole m, .whole n => m == n
  | .real x, .real y => x.sameValue y
  | _, _ => false

/-- A number is the same as itself. -/
theorem same_refl (n : Number) : n.same n = true := by
  cases n with
  | whole value => exact beq_self_eq_true value
  | real value => simp [same, Double.sameValue]

/-- The number as a count of 64 bits. -/
def nat? : Number → Option Nat
  | .whole n => if 0 ≤ n ∧ n ≤ 0xFFFFFFFFFFFFFFFF then some n.toNat else none
  | .real _ => none

/-- The digits of a number as it is written. -/
structure Written where
  negative : Bool
  whole : List Nat
  /-- The digits after the point, if there is a point. -/
  fraction : Option (List Nat)
  /-- The exponent, its sign and its digits, if there is one. -/
  exponent : Option (Bool × List Nat)

/-- Takes digits while the value fits 64 bits, and counts those taken. -/
def gather : Nat → List Nat → Nat × Nat
  | acc, [] => (acc, 0)
  | acc, d :: rest =>
    if 10 * acc + d ≤ 0xFFFFFFFFFFFFFFFF then
      let (value, taken) := gather (10 * acc + d) rest
      (value, taken + 1)
    else (acc, 0)

/-- `10 ^ n` in binary64. -/
def powerOfTen (n : Nat) : Float := Float.ofScientific 1 false n

/-- The value divided by `10 ^ e`, in steps of at most `10 ^ 308`. -/
def divideByPower (f : Float) (e : Nat) : Float :=
  if e ≤ 308 then f / powerOfTen e
  else if f == 0 then f
  else divideByPower (f / powerOfTen 308) (e - 308)
termination_by e

/-- `value · 10 ^ e` in binary64; a value that is too large has no number. -/
def scale? (value : Nat) (e : Int) : Option Float :=
  let f := value.toUInt64.toFloat
  if e < 0 then some (divideByPower f (-e).toNat)
  else if e ≤ 308 then
    let product := f * powerOfTen e.toNat
    if product.isInf then none else some product
  else if value = 0 then some f
  else none

/-- The value of an exponent as it is written, held within 32 bits. -/
def exponentOf (negative : Bool) (digits : List Nat) : Int :=
  let value : Nat := digits.foldl (fun n d => 10 * n + d) 0
  if negative then -(value : Int) else value

/-- A written number in binary64. -/
def Written.real? (w : Written) : Option Number :=
  let (head, taken) := gather 0 w.whole
  let skipped := w.whole.length - taken
  let (value, places) := match w.fraction with
    | some digits => gather head digits
    | none => (head, 0)
  let start : Int := (skipped : Int) - places
  let float? := match w.exponent with
    | none => scale? value start
    | some (negative, digits) =>
      let e := exponentOf negative digits
      if e.natAbs < 0x80000000 then scale? value (start + e)
      else if value ≠ 0 ∧ !negative then none
      else some 0
  float?.map fun f => .real (Double.ofFloat (if w.negative then -f else f))

/-- The number that is written. A minus sign before zero makes it a binary64 number. -/
def Written.number? (w : Written) : Option Number :=
  match w.fraction, w.exponent with
  | none, none =>
    let value : Nat := w.whole.foldl (fun n d => 10 * n + d) 0
    if w.negative then
      if 0 < value ∧ value ≤ 0x8000000000000000 then some (.whole (-value)) else w.real?
    else if value ≤ 0xFFFFFFFFFFFFFFFF then some (.whole value)
    else w.real?
  | _, _ => w.real?

/-- The leading digits of a text, and what follows them. -/
def digitsOf (cs : List Char) : List Nat × List Char :=
  ((cs.takeWhile Char.isDigit).map fun c => c.toNat - '0'.toNat, cs.dropWhile Char.isDigit)

/-- The fraction part at the head of a text. -/
def fractionOf? : List Char → Option (Option (List Nat) × List Char)
  | '.' :: rest =>
    let (digits, rest) := digitsOf rest
    if digits.isEmpty then none else some (some digits, rest)
  | cs => some (none, cs)

/-- The exponent part at the head of a text. -/
def exponentOf? : List Char → Option (Option (Bool × List Nat) × List Char)
  | c :: rest =>
    if c = 'e' ∨ c = 'E' then
      let (negative, rest) := match rest with
        | '+' :: rest => (false, rest)
        | '-' :: rest => (true, rest)
        | _ => (false, rest)
      let (digits, rest) := digitsOf rest
      if digits.isEmpty then none else some (some (negative, digits), rest)
    else some (none, c :: rest)
  | [] => some (none, [])

/-- The number that a whole text is, by the grammar of JSON. -/
def ofChars? (cs : List Char) : Option Number := do
  let (negative, cs) := match cs with
    | '-' :: rest => (true, rest)
    | _ => (false, cs)
  let (digits, cs) := digitsOf cs
  if digits.isEmpty || (digits.head? == some 0 && digits.length != 1) then none
  let (fraction, cs) ← fractionOf? cs
  let (exponent, cs) ← exponentOf? cs
  if cs.isEmpty then (Written.mk negative digits fraction exponent).number? else none

end Number

end RestQuery.Json
