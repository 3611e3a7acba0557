import RestQuery.Text.Bidi
import RestQuery.Text.Compose
import RestQuery.Text.Joiner
import RestQuery.Url.Encoded
import RestQuery.Url.NameChar

/-!
# Names of hosts

A name is read in the form that it is meant to have: characters are replaced by those that they
stand for, and the text is composed. Its parts, which stand between points, can be written in their
encoded form after `xn--`; that form has to be one of a part that is read as itself.

No part starts with a mark or has a joiner that does not show, and one with characters beyond ASCII
is not too long. Where some letters are written from right to left, every part has to fit.
-/

namespace RestQuery.Url

open Text

/-- Whether a character of ASCII is in no name. -/
def isDenied (c : Char) : Bool :=
  c.toNat ≤ 0x20 || c.toNat == 0x7F || "%#/:<>?@[\\]^|".toList.contains c

/-- The form that a name is meant to have. -/
def nameOf? (s : String) : Option (List Char) := do
  let parts ← s.toList.mapM nameChars?
  let name := compose parts.flatten
  if name.any isDenied then none else some name

/-- Whether a decoded part is read as itself, so that encoding it again gives the encoded form. -/
def readsAsItself (part : List Char) : Bool :=
  part.all (fun c => nameChars? c == some [c] && !isDenied c && c != '.') && compose part == part

/-- A part of a name as it is meant, if it is encoded rightly where it is encoded. -/
def meantPart? (part : List Char) : Option (List Char) :=
  match part with
  | 'x' :: 'n' :: '-' :: '-' :: rest => (decodePart? rest).filter readsAsItself
  | _ => some part

/-- The greatest number of characters of a part that has some beyond ASCII. -/
def maxPartLength : Nat := 1000

/-- Whether a part can be in a name. -/
def isPart (part : List Char) : Bool :=
  !part.head?.any isMark && joinersShow [] part &&
    (part.length ≤ maxPartLength || part.all (·.toNat < 0x80))

/-- The parts of a name, with those that are encoded left so; `none` for a text that is no name. -/
def nameParts? (s : String) : Option (List (List Char)) := do
  let parts := piecesOf '.' (← nameOf? s)
  let meant ← parts.mapM meantPart?
  if meant.all isPart && (!meant.any hasTwoDirections || meant.all fitsBidi) then some parts
  else none

end RestQuery.Url
