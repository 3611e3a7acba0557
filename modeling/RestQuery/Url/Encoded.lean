import RestQuery.Text.Cut

/-!
# Encoded parts of names

A part of a name with characters beyond ASCII has an encoded form in letters, digits and `-`: the
characters of ASCII, a `-`, and then a number for every other character, in the order of code
points. Each number tells how many places, of all pairs of a code point and a position, lie between
the character and the one inserted before it. Numbers are written in base 36 with the lowest digit
first, and a threshold for every digit tells which digit is the last.

`decodePart?` reads that form. Sums, weights and digits are bounded by 32 bits, and a part of more
than `maxEncoded` characters is not read.
-/

namespace RestQuery.Url

open Text

/-- The value of a digit: letters come before digits. -/
def encodedDigit? (c : Char) : Option Nat :=
  if 'a' ≤ c ∧ c ≤ 'z' then some (c.toNat - 'a'.toNat)
  else if c.isDigit then some (c.toNat - '0'.toNat + 26)
  else none

/-- The threshold of the digit at a place; places are counted by 36, from 36. -/
def digitThreshold (bias place : Nat) : Nat :=
  if place ≤ bias then 1 else if bias + 26 ≤ place then 26 else place - bias

/-- Adds a number to a sum: the sum, and what follows the last digit. `place` and `weight` are
those of the first digit. -/
def addNumber? (bias : Nat) : Nat → Nat → Nat → List Char → Option (Nat × List Char)
  | _, _, _, [] => none
  | place, weight, sum, c :: rest => do
    let digit ← encodedDigit? c
    let threshold := digitThreshold bias place
    let sum := sum + digit * weight
    let next := weight * (36 - threshold)
    if 0xFFFFFFFF < sum then none
    else if digit < threshold then some (sum, rest)
    else if 0xFFFFFFFF < next then none
    else addNumber? bias (place + 36) next sum rest

/-- Some digits remain after a number only if they were there before it. -/
theorem length_lt_of_addNumber? {bias place weight sum total : Nat} {cs rest : List Char}
    (h : addNumber? bias place weight sum cs = some (total, rest)) : rest.length < cs.length := by
  induction cs generalizing place weight sum with
  | nil => simp [addNumber?] at h
  | cons c cs ih =>
    simp only [addNumber?, Option.bind_eq_bind, Option.bind_eq_some_iff] at h
    obtain ⟨digit, -, h⟩ := h
    split at h
    · simp at h
    · split at h
      · simp only [Option.some.injEq, Prod.mk.injEq] at h
        simp [h.2]
      · split at h
        · simp at h
        · have := ih h
          simp only [List.length_cons]
          omega

/-- The bias after a number, for a part that has then `count` characters. -/
def adaptedBias (number count : Nat) (first : Bool) : Nat :=
  let number := if first then number / 700 else number / 2
  shrink (number + number / count) 0
where
  /-- Divides a number until it is small, and takes the bias from it. -/
  shrink (number bias : Nat) : Nat :=
    if 455 < number then shrink (number / 35) (bias + 36)
    else bias + 36 * number / (number + 38)
  termination_by number
  decreasing_by omega

/-- Inserts characters into a part. `point` is the code point of the character inserted last, and
`position` the place after it. -/
def insertEncoded? (bias point position : Nat) (part digits : List Char) : Option (List Char) :=
  if digits.isEmpty then some part
  else
    match _h : addNumber? bias 36 1 position digits with
    | none => none
    | some (sum, rest) =>
      let count := part.length + 1
      let point := point + sum / count
      let position' := sum % count
      if point < 0xD800 ∨ (0xDFFF < point ∧ point < 0x110000) then
        insertEncoded? (adaptedBias (sum - position) count (position == 0)) point (position' + 1)
          (part.take position' ++ Char.ofNat point :: part.drop position') rest
      else none
termination_by digits.length
decreasing_by exact length_lt_of_addNumber? _h

/-- The greatest number of characters of an encoded form that is read. -/
def maxEncoded : Nat := 2000

/-- The part of a name of which some characters are the encoded form. There is at least one
character beyond ASCII in it, and a `-` only after others. -/
def decodePart? (cs : List Char) : Option (List Char) :=
  if maxEncoded < cs.length ∨ cs.any (0x80 ≤ ·.toNat) then none
  else
    match cutChars '-' cs.reverse with
    | none => if cs.isEmpty then none else insertEncoded? 72 128 0 [] cs
    | some ([], _) | some (_, []) => none
    | some (digits, part) => insertEncoded? 72 128 0 part.reverse digits.reverse

end RestQuery.Url
