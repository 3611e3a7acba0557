/-!
# Percent-encoding

A text is encoded byte by byte in UTF-8: a byte that is kept stands for itself, any other is written
as `%` and two upper-case hexadecimal digits. Decoding takes the bytes that are written and reads
them as UTF-8. Where they are not, each longest start of a character and each stray byte reads as
one replacement character.
-/

namespace RestQuery.Text

/-- The bytes of a text in UTF-8. -/
def utf8Bytes (s : String) : List UInt8 :=
  s.toList.flatMap String.utf8EncodeChar

/-- The upper-case hexadecimal digit of a number below sixteen. -/
def upperHexDigit (n : Nat) : Char :=
  if n < 10 then Char.ofNat ('0'.toNat + n) else Char.ofNat ('A'.toNat + (n - 10))

/-- A byte, kept or escaped. -/
def encodeByte (keep : Char → Bool) (b : UInt8) : List Char :=
  let c := Char.ofNat b.toNat
  if b.toNat < 0x80 ∧ keep c then [c]
  else ['%', upperHexDigit (b.toNat / 16), upperHexDigit (b.toNat % 16)]

/-- A text with every byte escaped that is not a kept character of ASCII. -/
def percentEncode (keep : Char → Bool) (s : String) : String :=
  String.ofList ((utf8Bytes s).flatMap (encodeByte keep))

/-- The value of a byte that is a hexadecimal digit. -/
def hexByte? (b : UInt8) : Option Nat :=
  let n := b.toNat
  if 0x30 ≤ n ∧ n ≤ 0x39 then some (n - 0x30)
  else if 0x41 ≤ n ∧ n ≤ 0x46 then some (n - 0x41 + 10)
  else if 0x61 ≤ n ∧ n ≤ 0x66 then some (n - 0x61 + 10)
  else none

/-- The byte that an escape stands for. -/
def escapedByte? (a b c : UInt8) : Option UInt8 := do
  if a ≠ 0x25 then none
  let high ← hexByte? b
  let low ← hexByte? c
  some (UInt8.ofNat (16 * high + low))

/-- The bytes with those escaped put back; a `%` without two digits after it stays. -/
def unescapeBytes : List UInt8 → List UInt8
  | [] => []
  | [a] => [a]
  | [a, b] => [a, b]
  | a :: b :: c :: rest =>
    match escapedByte? a b c with
    | some byte => byte :: unescapeBytes rest
    | none => a :: unescapeBytes (b :: c :: rest)

/-- The start of a character of several bytes: how many are missing, the value of those read, and
the bounds of the next. -/
structure Partial where
  missing : Nat
  value : Nat
  low : Nat
  high : Nat

/-- The state of a lenient decoder: the characters so far, last first, and a started character. -/
structure Lenient where
  done : List Char
  started : Option Partial

/-- The character that stands for bytes that are none. -/
def replacement : Char := Char.ofNat 0xFFFD

/-- Starts a character. -/
def Lenient.start (done : List Char) (n : Nat) : Lenient :=
  if n < 0x80 then ⟨Char.ofNat n :: done, none⟩
  else if 0xC2 ≤ n ∧ n ≤ 0xDF then ⟨done, some ⟨1, n - 0xC0, 0x80, 0xBF⟩⟩
  else if 0xE0 ≤ n ∧ n ≤ 0xEF then
    ⟨done, some ⟨2, n - 0xE0, if n = 0xE0 then 0xA0 else 0x80, if n = 0xED then 0x9F else 0xBF⟩⟩
  else if 0xF0 ≤ n ∧ n ≤ 0xF4 then
    ⟨done, some ⟨3, n - 0xF0, if n = 0xF0 then 0x90 else 0x80, if n = 0xF4 then 0x8F else 0xBF⟩⟩
  else ⟨replacement :: done, none⟩

/-- Takes one byte. -/
def Lenient.step (l : Lenient) (b : UInt8) : Lenient :=
  let n := b.toNat
  match l.started with
  | none => Lenient.start l.done n
  | some p =>
    if p.low ≤ n ∧ n ≤ p.high then
      let value := 64 * p.value + (n - 0x80)
      if p.missing ≤ 1 then ⟨Char.ofNat value :: l.done, none⟩
      else ⟨l.done, some ⟨p.missing - 1, value, 0x80, 0xBF⟩⟩
    else Lenient.start (replacement :: l.done) n

/-- Some bytes read as UTF-8 where they are not. -/
def decodeLeniently (bytes : List UInt8) : String :=
  let l := bytes.foldl Lenient.step ⟨[], none⟩
  String.ofList (if l.started.isSome then replacement :: l.done else l.done).reverse

/-- Some bytes read as UTF-8. -/
def decodeUtf8 (bytes : List UInt8) : String :=
  (String.fromUTF8? bytes.toByteArray).getD (decodeLeniently bytes)

/-- A text with its escapes put back. -/
def percentDecode (s : String) : String :=
  decodeUtf8 (unescapeBytes (utf8Bytes s))

end RestQuery.Text
