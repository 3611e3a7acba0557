/-!
# Blanks and trimming

Blank characters are those with the Unicode property `White_Space`. Trimming removes them from the
ends of a text and keeps everything between the first and the last other character.
-/

namespace RestQuery.Text

/-- Whether a character has the Unicode property `White_Space`. -/
def isBlank (c : Char) : Bool :=
  let n := c.toNat
  (0x09 ≤ n && n ≤ 0x0D) || n == 0x20 || n == 0x85 || n == 0xA0 || n == 0x1680 ||
    (0x2000 ≤ n && n ≤ 0x200A) || n == 0x2028 || n == 0x2029 || n == 0x202F || n == 0x205F ||
    n == 0x3000

/-- The characters that remain when those satisfying `p` are dropped from the end. -/
def dropEndWhile (p : Char → Bool) (cs : List Char) : List Char :=
  (cs.reverse.dropWhile p).reverse

/-- The characters that remain when those satisfying `p` are dropped from both ends. -/
def stripWhile (p : Char → Bool) (cs : List Char) : List Char :=
  dropEndWhile p (cs.dropWhile p)

/-- A text without the blanks at its ends. -/
def trim (s : String) : String :=
  String.ofList (stripWhile isBlank s.toList)

/-- A text without the given character at its ends. -/
def trimChar (c : Char) (s : String) : String :=
  String.ofList (stripWhile (· == c) s.toList)

/-- A text without the given character at its end. -/
def trimEndChar (c : Char) (s : String) : String :=
  String.ofList (dropEndWhile (· == c) s.toList)

/-- A text without the given character at its start. -/
def trimStartChar (c : Char) (s : String) : String :=
  String.ofList (s.toList.dropWhile (· == c))

/-- The first of the words that blanks separate; a blank text has none. -/
def firstWord? (s : String) : Option String :=
  match (s.toList.dropWhile isBlank).takeWhile (fun c => !isBlank c) with
  | [] => none
  | word => some (String.ofList word)

end RestQuery.Text
