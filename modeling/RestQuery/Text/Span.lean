import RestQuery.Text.Cut

/-!
# Tables of characters

Properties of characters are given by spans of code points. A table is written as a text of words
between blanks and line ends, with all numbers in base 16: `41-5A` is a span, `100-12E/2` a span
of every second code point, `B5` one of a single code point. `C0-D6:E0` moves a span so that it
starts at `E0`, and `132:69+6A` gives a code point some others.
-/

namespace RestQuery.Text

/-- Code points from a first to a last, each `step` after the one before. -/
structure Span where
  first : Nat
  last : Nat
  step : Nat

/-- Whether a span holds a code point. -/
def Span.holds (s : Span) (n : Nat) : Bool :=
  s.first ≤ n && n ≤ s.last && (n - s.first) % s.step == 0

/-- A span, and the code point to which its first is moved. -/
structure Shift where
  span : Span
  target : Nat

/-- The words of a table, in order. -/
def tableWords (table : String) : List (List Char) :=
  let (word, words) := table.toList.foldl (fun (word, words) c =>
    if c = ' ' ∨ c = '\n' then ([], word.reverse :: words) else (c :: word, words)) ([], [])
  ((word.reverse :: words).filter (!·.isEmpty)).reverse

/-- The number that digits of base 16 in upper case stand for. -/
def tableNumber (digits : List Char) : Nat :=
  digits.foldl (fun n c =>
    16 * n + if c.isDigit then c.toNat - '0'.toNat else c.toNat - 'A'.toNat + 10) 0

/-- The span that a word stands for. -/
def Span.ofWord (word : List Char) : Span :=
  let (bounds, step) := match cutChars '/' word with
    | some (bounds, step) => (bounds, tableNumber step)
    | none => (word, 1)
  match cutChars '-' bounds with
  | some (first, last) => ⟨tableNumber first, tableNumber last, step⟩
  | none => ⟨tableNumber bounds, tableNumber bounds, step⟩

/-- The spans of a table. -/
def spans (table : String) : List Span :=
  (tableWords table).map Span.ofWord

/-- The shifts of a table. -/
def shifts (table : String) : List Shift :=
  (tableWords table).filterMap fun word =>
    (cutChars ':' word).map fun (span, target) => ⟨Span.ofWord span, tableNumber target⟩

/-- The characters of a table, each with those that it gives. -/
def expansions (table : String) : List (Char × List Char) :=
  (tableWords table).filterMap fun word =>
    (cutChars ':' word).map fun (c, others) =>
      (Char.ofNat (tableNumber c), (piecesOf '+' others).map (Char.ofNat ∘ tableNumber))

/-- Whether a character lies in one of some spans. -/
def inSpans (spans : List Span) (c : Char) : Bool :=
  spans.any (·.holds c.toNat)

/-- The character to which some shifts move a character. -/
def shifted? (shifts : List Shift) (c : Char) : Option Char :=
  (shifts.find? (·.span.holds c.toNat)).map fun s =>
    Char.ofNat (s.target + (c.toNat - s.span.first))

end RestQuery.Text
