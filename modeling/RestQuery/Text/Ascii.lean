/-!
# Letters and digits of ASCII

Header names, operators and numbers written as text are compared and read by the rules of ASCII:
letters outside it have no case, digits outside it are no digits.
-/

namespace RestQuery.Text

/-- A text with the letters `A` to `Z` lowered; every other character stays. -/
def lower (s : String) : String :=
  String.ofList (s.toList.map Char.toLower)

/-- Whether two texts are equal up to the case of the letters of ASCII. -/
def sameIgnoringCase (s t : String) : Bool :=
  lower s == lower t

/-- The value of a run of decimal digits, read after a prefix of value `acc`. -/
def digitsValue (acc : Nat) (digits : List Char) : Nat :=
  digits.foldl (fun n c => 10 * n + (c.toNat - '0'.toNat)) acc

/-- The number that an optional `+` and one or more digits stand for. -/
def natOfChars? (cs : List Char) : Option Nat :=
  let digits := match cs with
    | '+' :: rest => rest
    | _ => cs
  if digits.isEmpty || !digits.all Char.isDigit then none else some (digitsValue 0 digits)

/-- The number that a text stands for, if it does not exceed `most`: an optional `+` and one or
more digits. -/
def nat? (most : Nat) (s : String) : Option Nat :=
  (natOfChars? s.toList).filter (· ≤ most)

/-- The largest number of 64 bits. -/
def maxWord64 : Nat := 0xFFFFFFFFFFFFFFFF

/-- The largest number of 32 bits. -/
def maxWord32 : Nat := 0xFFFFFFFF

/-- The truth value that a text spells. -/
def bool? : String → Option Bool
  | "true" => some true
  | "false" => some false
  | _ => none

end RestQuery.Text
