import RestQuery.Json.Basic

/-!
# Reading JSON

A text is cut into tokens, and the tokens are put together with a stack of the lists and objects
that are still open. Both run once over their input and keep what they have seen so far as a state,
so reading ends by construction. Values may be nested at most as deep as the caller allows.
-/

namespace RestQuery.Json

/-- What a JSON text is made of. -/
inductive Token where
  | openList
  | closeList
  | openObject
  | closeObject
  | comma
  | colon
  /-- A `null`, a truth value, a number or a text. -/
  | atom (value : Json)

/-- The place of the lexer within a token. -/
inductive Place where
  /-- Between two tokens. -/
  | between
  /-- In a text: the characters so far, last first. -/
  | inText (done : List Char)
  /-- After a backslash. -/
  | escape (done : List Char)
  /-- In the four digits of an escaped UTF-16 unit, after the first half of a pair if there is one:
  the digits still missing and the value of those read. -/
  | unit (done : List Char) (lead : Option Nat) (missing : Nat) (value : Nat)
  /-- After the first half of a pair, where a backslash must follow. -/
  | pairEscape (done : List Char) (lead : Nat)
  /-- After the first half of a pair and a backslash, where a `u` must follow. -/
  | pairUnit (done : List Char) (lead : Nat)
  /-- In a number: its characters, last first. -/
  | inNumber (done : List Char)
  /-- In a word: its characters, last first. -/
  | inWord (done : List Char)

/-- The state of the lexer: the tokens so far, last first, and its place. -/
structure Lexer where
  tokens : List Token
  place : Place

/-- Whether a character can stand in a number. -/
def isNumberChar (c : Char) : Bool :=
  c.isDigit || c == '-' || c == '+' || c == '.' || c == 'e' || c == 'E'

/-- The token of a word. -/
def word? (cs : List Char) : Option Token :=
  if cs = "null".toList then some (.atom .null)
  else if cs = "true".toList then some (.atom (.bool true))
  else if cs = "false".toList then some (.atom (.bool false))
  else none

/-- The value of a hexadecimal digit. -/
def hexValue? (c : Char) : Option Nat :=
  if c.isDigit then some (c.toNat - '0'.toNat)
  else if 'a' ≤ c ∧ c ≤ 'f' then some (c.toNat - 'a'.toNat + 10)
  else if 'A' ≤ c ∧ c ≤ 'F' then some (c.toNat - 'A'.toNat + 10)
  else none

/-- The character that a letter after a backslash stands for. -/
def escaped? : Char → Option Char
  | '"' => some '"'
  | '\\' => some '\\'
  | '/' => some '/'
  | 'b' => some '\x08'
  | 'f' => some '\x0c'
  | 'n' => some '\n'
  | 'r' => some '\r'
  | 't' => some '\t'
  | _ => none

/-- The place after a UTF-16 unit: the first half of a pair waits for the second, and no half
stands alone. -/
def afterUnit? (done : List Char) (lead : Option Nat) (value : Nat) : Option Place :=
  match lead with
  | some first =>
    if 0xDC00 ≤ value ∧ value ≤ 0xDFFF then
      some (.inText (Char.ofNat (0x10000 + (first - 0xD800) * 0x400 + (value - 0xDC00)) :: done))
    else none
  | none =>
    if 0xD800 ≤ value ∧ value ≤ 0xDBFF then some (.pairEscape done value)
    else if 0xDC00 ≤ value ∧ value ≤ 0xDFFF then none
    else some (.inText (Char.ofNat value :: done))

/-- Starts a token. -/
def Lexer.start? (tokens : List Token) (c : Char) : Option Lexer :=
  match c with
  | ' ' | '\t' | '\n' | '\r' => some ⟨tokens, .between⟩
  | '[' => some ⟨.openList :: tokens, .between⟩
  | ']' => some ⟨.closeList :: tokens, .between⟩
  | '\x7b' => some ⟨.openObject :: tokens, .between⟩
  | '\x7d' => some ⟨.closeObject :: tokens, .between⟩
  | ',' => some ⟨.comma :: tokens, .between⟩
  | ':' => some ⟨.colon :: tokens, .between⟩
  | '"' => some ⟨tokens, .inText []⟩
  | _ =>
    if c.isDigit || c == '-' then some ⟨tokens, .inNumber [c]⟩
    else if c.isLower then some ⟨tokens, .inWord [c]⟩
    else none

/-- Ends a number or a word that nothing else ends. -/
def Lexer.finish? (l : Lexer) : Option (List Token) :=
  match l.place with
  | .between => some l.tokens
  | .inNumber done => (Number.ofChars? done.reverse).map fun n => .atom (.number n) :: l.tokens
  | .inWord done => (word? done.reverse).map (· :: l.tokens)
  | _ => none

/-- Takes one character. -/
def Lexer.step? (l : Lexer) (c : Char) : Option Lexer :=
  match l.place with
  | .between => Lexer.start? l.tokens c
  | .inText done =>
    if c = '"' then some ⟨.atom (.text (String.ofList done.reverse)) :: l.tokens, .between⟩
    else if c = '\\' then some ⟨l.tokens, .escape done⟩
    else if c.toNat < 0x20 then none
    else some ⟨l.tokens, .inText (c :: done)⟩
  | .escape done =>
    if c = 'u' then some ⟨l.tokens, .unit done none 4 0⟩
    else (escaped? c).map fun e => ⟨l.tokens, .inText (e :: done)⟩
  | .unit done lead missing value => do
    let digit ← hexValue? c
    let value := 16 * value + digit
    if missing ≤ 1 then (afterUnit? done lead value).map fun place => ⟨l.tokens, place⟩
    else some ⟨l.tokens, .unit done lead (missing - 1) value⟩
  | .pairEscape done lead => if c = '\\' then some ⟨l.tokens, .pairUnit done lead⟩ else none
  | .pairUnit done lead => if c = 'u' then some ⟨l.tokens, .unit done (some lead) 4 0⟩ else none
  | .inNumber done =>
    if isNumberChar c then some ⟨l.tokens, .inNumber (c :: done)⟩
    else l.finish?.bind (Lexer.start? · c)
  | .inWord done =>
    if c.isLower then some ⟨l.tokens, .inWord (c :: done)⟩
    else l.finish?.bind (Lexer.start? · c)

/-- The tokens of a text. -/
def tokens? (cs : List Char) : Option (List Token) := do
  let l ← cs.foldlM Lexer.step? ⟨[], .between⟩
  (← l.finish?).reverse

/-- A list or an object that is still open. -/
inductive Frame where
  /-- The items so far, last first. -/
  | list (done : List Json)
  /-- The members so far, and the key whose value comes next. -/
  | object (done : KeyMap Json) (key : String)

/-- What may come next. -/
inductive Expect where
  | value
  /-- The first item of a list, or its end. -/
  | firstItem
  /-- The first key of an object, or its end. -/
  | firstKey
  | key
  | colon
  /-- A comma, or the end of the innermost list or object. -/
  | more
  deriving Inhabited

/-- The state of the reader: the open lists and objects, innermost first, what may come next, and
the value if it is complete. -/
structure Builder where
  frames : List Frame
  expect : Expect
  done : Option Json

/-- Puts a complete value into the innermost open list or object. -/
def Builder.put (frames : List Frame) (value : Json) : Builder :=
  match frames with
  | [] => ⟨[], .more, some value⟩
  | .list done :: rest => ⟨.list (value :: done) :: rest, .more, none⟩
  | .object done key :: rest => ⟨.object (KeyMap.insert done key value) key :: rest, .more, none⟩

/-- Takes one token; at most `depth` lists and objects may be open. -/
def Builder.step? (depth : Nat) (b : Builder) (t : Token) : Option Builder :=
  match b.expect, t, b.frames with
  | .value, .atom v, frames | .firstItem, .atom v, frames => some (Builder.put frames v)
  | .value, .openList, frames | .firstItem, .openList, frames =>
    if frames.length < depth then some ⟨.list [] :: frames, .firstItem, none⟩ else none
  | .value, .openObject, frames | .firstItem, .openObject, frames =>
    if frames.length < depth then some ⟨.object [] "" :: frames, .firstKey, none⟩ else none
  | .firstItem, .closeList, .list done :: rest => some (Builder.put rest (.list done.reverse))
  | .firstKey, .closeObject, .object done _ :: rest => some (Builder.put rest (.object done))
  | .firstKey, .atom (.text key), .object done _ :: rest
  | .key, .atom (.text key), .object done _ :: rest =>
    some ⟨.object done key :: rest, .colon, none⟩
  | .colon, .colon, frames => some ⟨frames, .value, none⟩
  | .more, .comma, .list done :: rest => some ⟨.list done :: rest, .value, none⟩
  | .more, .comma, .object done key :: rest => some ⟨.object done key :: rest, .key, none⟩
  | .more, .closeList, .list done :: rest => some (Builder.put rest (.list done.reverse))
  | .more, .closeObject, .object done _ :: rest => some (Builder.put rest (.object done))
  | _, _, _ => none

/-- The value that a text is, with at most `depth` lists and objects around any part of it. -/
def parse? (depth : Nat) (s : String) : Option Json := do
  let tokens ← tokens? s.toList
  let b ← tokens.foldlM (Builder.step? depth) ⟨[], .value, none⟩
  b.done

end RestQuery.Json
