import RestQuery.Text.Ascii
import RestQuery.Text.Blank

/-!
# Dates in headers

A date is written as RFC 2822 lays down: `Wed, 21 Oct 2015 07:28:00 GMT`. The day of the week may be
left out, but a wrong one is refused. Any run of blanks may stand where one blank may, years of two
or three digits are taken to be of the last or the present century, and comments in parentheses may
follow.

`Instant` is a second of Coordinated Universal Time. A sixtieth second is the second before it,
marked as a leap second.
-/

namespace RestQuery.Http

open Text

/-- A second of Coordinated Universal Time. -/
structure Instant where
  /-- Days since 1 January 1970. -/
  day : Int
  /-- Seconds since midnight. -/
  second : Nat
  /-- Whether the leap second after that second is meant. -/
  leap : Bool
  deriving DecidableEq, Repr

namespace Instant

/-- The milliseconds from a moment, given in milliseconds since 1970, to an instant. A leap second
counts only where it lies later in the day than the moment. -/
def millisecondsFrom (moment : Int) (i : Instant) : Int :=
  let today := moment.fdiv 86400000
  let sinceMidnight := moment - today * 86400000
  let leap := if i.leap ∧ sinceMidnight / 1000 ≤ i.second then 1000 else 0
  (i.day - today) * 86400000 + i.second * 1000 + leap - sinceMidnight

end Instant

namespace Date

/-- The days from 1 January 1970 to a day of the Gregorian calendar. Years are counted from March,
so that the leap day is the last of its year. -/
def dayNumber (year month day : Int) : Int :=
  let y := if month ≤ 2 then year - 1 else year
  let m := if month ≤ 2 then month + 9 else month - 3
  365 * y + y.fdiv 4 - y.fdiv 100 + y.fdiv 400 + (153 * m + 2) / 5 + day - 1 - 719468

/-- Whether a year has a leap day. -/
def isLeapYear (year : Nat) : Bool :=
  year % 4 == 0 && (year % 100 != 0 || year % 400 == 0)

/-- The number of days of a month. -/
def monthLength (year month : Nat) : Nat :=
  if month = 2 then (if isLeapYear year then 29 else 28)
  else if month ∈ [4, 6, 9, 11] then 30 else 31

/-- The greatest year of a date, and of an instant. -/
def lastYear : Nat := 262142

def weekdays : List String := ["mon", "tue", "wed", "thu", "fri", "sat", "sun"]

def months : List String :=
  ["jan", "feb", "mar", "apr", "may", "jun", "jul", "aug", "sep", "oct", "nov", "dec"]

/-- The place among some names of the three letters at the head of a text, and what follows. -/
def name? (names : List String) (cs : List Char) : Option (Nat × List Char) :=
  let head := String.ofList ((cs.take 3).map Char.toLower)
  (names.findIdx? (· == head)).map fun i => (i, cs.drop 3)

/-- A number of at least `least` and at most `most` digits at the head of a text, and what
follows. -/
def number? (least most : Nat) (cs : List Char) : Option (Nat × List Char) :=
  let digits := (cs.take most).takeWhile Char.isDigit
  if digits.length < least then none
  else some (digitsValue 0 digits, cs.drop digits.length)

/-- What follows one or more blanks. -/
def afterBlanks? (cs : List Char) : Option (List Char) :=
  let rest := cs.dropWhile isBlank
  if rest.length < cs.length then some rest else none

/-- What follows a character. -/
def after? (c : Char) : List Char → Option (List Char)
  | [] => none
  | d :: rest => if d = c then some rest else none

/-- The day of the week before a comma, if one is named, and what follows. -/
def weekday? (cs : List Char) : Option (Option Nat × List Char) :=
  match name? weekdays cs with
  | none => some (none, cs)
  | some (day, rest) => (after? ',' rest).map fun rest => (some day, rest)

/-- A year of two digits is of the present century below 50; one of three digits and the others of
two count from 1900. -/
def fullYear (digits year : Nat) : Nat :=
  if digits = 2 then (if year < 50 then year + 2000 else year + 1900)
  else if digits = 3 then year + 1900 else year

/-- The seconds by which a named zone is ahead; the letters except `J` stand for zones that are not
told apart. -/
def namedZone? (name : String) : Option Int :=
  match lower name with
  | "gmt" | "ut" => some 0
  | "edt" => some (-4 * 3600)
  | "est" | "cdt" => some (-5 * 3600)
  | "cst" | "mdt" => some (-6 * 3600)
  | "mst" | "pdt" => some (-7 * 3600)
  | "pst" => some (-8 * 3600)
  | other => if other.length = 1 ∧ other ≠ "j" then some 0 else none

/-- A zone, by its name or as a sign, two digits of hours and two of minutes, and what follows. -/
def zone? (cs : List Char) : Option (Int × List Char) :=
  match cs.takeWhile Char.isAlpha with
  | [] => do
    let (negative, rest) ← match cs with
      | '+' :: rest => some (false, rest)
      | '-' :: rest => some (true, rest)
      | _ => none
    let (hours, rest) ← number? 2 2 rest
    let (minutes, rest) ← number? 2 2 rest
    if 60 ≤ minutes then none
    let seconds : Int := hours * 3600 + minutes * 60
    some (if negative then -seconds else seconds, rest)
  | name => (namedZone? (String.ofList name)).map fun offset => (offset, cs.drop name.length)

/-- The place of a reader among comments. -/
inductive CommentPlace where
  /-- Outside of comments; whether blanks were seen since the last. -/
  | outside (blank : Bool)
  /-- Within so many comments. -/
  | inside (depth : Nat)
  /-- After a backslash within so many comments. -/
  | escaped (depth : Nat)

/-- Takes one character of comments. -/
def CommentPlace.step? (p : CommentPlace) (c : Char) : Option CommentPlace :=
  match p with
  | .outside _ =>
    if c = '(' then some (.inside 1) else if isBlank c then some (.outside true) else none
  | .escaped depth => some (.inside depth)
  | .inside depth =>
    if c = '\\' then some (.escaped depth)
    else if c = '(' then some (.inside (depth + 1))
    else if c = ')' then some (if depth = 1 then .outside false else .inside (depth - 1))
    else some (.inside depth)

/-- Whether a text consists of comments only, each after any blanks. -/
def isComments (cs : List Char) : Bool :=
  match cs.foldlM CommentPlace.step? (.outside false) with
  | some (.outside blank) => !blank
  | _ => false

/-- The time of day with its leap second, and what follows. -/
def timeOfDay? (cs : List Char) : Option (Nat × Bool × List Char) := do
  let (hour, rest) ← number? 2 2 cs
  let rest ← after? ':' (rest.dropWhile isBlank)
  let (minute, rest) ← number? 2 2 (rest.dropWhile isBlank)
  let (second, rest) ← match after? ':' (rest.dropWhile isBlank) with
    | some rest => number? 2 2 rest
    | none => some (0, rest)
  if 23 < hour ∨ 59 < minute ∨ 60 < second then none
  else some (hour * 3600 + minute * 60 + min second 59, second == 60, rest)

/-- The instant so many seconds after the start of a day, which is perhaps given with its day of the
week. -/
def instant? (weekday : Option Nat) (date clock : Int) (leap : Bool) : Option Instant :=
  let today := date + clock.fdiv 86400
  if weekday.any (fun w => (w : Int) != (date + 3).fmod 7) || dayNumber lastYear 12 31 < today then
    none
  else some ⟨today, (clock.fmod 86400).toNat, leap⟩

/-- The instant that a text names. -/
def parse? (s : String) : Option Instant := do
  let (weekday, rest) ← weekday? (s.toList.dropWhile isBlank)
  let (day, rest) ← number? 1 2 (rest.dropWhile isBlank)
  let rest ← afterBlanks? rest
  let (month, rest) ← name? months rest
  let rest ← afterBlanks? rest
  let (written, after) ← number? 2 rest.length rest
  let year := fullYear (rest.length - after.length) written
  let rest ← afterBlanks? after
  let (second, leap, rest) ← timeOfDay? rest
  let rest ← afterBlanks? rest
  let (offset, rest) ← zone? rest
  if !isComments rest then none
  if lastYear < year ∨ day < 1 ∨ monthLength year (month + 1) < day then none
  if 86400 ≤ offset.natAbs then none
  instant? weekday (dayNumber year (month + 1) day) (second - offset) leap

end Date

end RestQuery.Http
