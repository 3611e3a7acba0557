import RestQuery.Text.Ascii
import RestQuery.Text.Percent
import RestQuery.Url.Name

/-!
# Hosts of URLs

The host of a URL of a known scheme is an address in brackets, an address of four numbers, or a
domain name. Which of these it is, and whether it is one, follows the URL standard: percent-escapes
are put back first, letters are lowered, and a name whose last part is a number has to be an
address.
-/

namespace RestQuery.Url

open Text

/-- Why a text is no URL. -/
inductive Fault where
  | emptyHost
  | internationalName
  | port
  | addressOfFour
  | addressInBrackets
  | domainCharacter
  | relative
  deriving DecidableEq

/-- The fault in words. -/
def Fault.message : Fault → String
  | emptyHost => "empty host"
  | internationalName => "invalid international domain name"
  | port => "invalid port number"
  | addressOfFour => "invalid IPv4 address"
  | addressInBrackets => "invalid IPv6 address"
  | domainCharacter => "invalid domain character"
  | relative => "relative URL without a base"

/-! ## Addresses in brackets -/

/-- The value of a hexadecimal digit. -/
def hexDigit? (c : Char) : Option Nat :=
  if c.toNat < 0x80 then hexByte? (UInt8.ofNat c.toNat) else none

/-- Up to `n` hexadecimal digits at the head of a text: how many there are, and what follows. -/
def takeHex : Nat → List Char → Nat × List Char
  | 0, cs => (0, cs)
  | n + 1, c :: rest =>
    if (hexDigit? c).isSome then
      let (count, rest) := takeHex n rest
      (count + 1, rest)
    else (0, c :: rest)
  | _ + 1, [] => (0, [])

/-- Whether a text is a number of at most 255 without a zero before it. -/
def isOctet (cs : List Char) : Bool :=
  !cs.isEmpty && cs.all Char.isDigit && (cs.length == 1 || cs.head? != some '0') &&
    cs.length ≤ 3 && digitsValue 0 cs ≤ 255

/-- Whether a text is four numbers of at most 255 with points between them. -/
def isQuad (cs : List Char) : Bool :=
  let parts := piecesOf '.' cs
  parts.length == 4 && parts.all isOctet

/-- Whether a text completes an address of eight pieces, of which some are read. `gap` tells whether
a run of pieces was left out, and `fuel` bounds the pieces that can follow. -/
def completesAddress : Nat → Nat → Bool → List Char → Bool
  | 0, _, _, _ => false
  | fuel + 1, pieces, gap, cs =>
    match cs with
    | [] => gap || pieces == 8
    | ':' :: rest => pieces < 8 && !gap && completesAddress fuel (pieces + 1) true rest
    | _ =>
      if 8 ≤ pieces then false
      else
        let (count, rest) := takeHex 4 cs
        match rest with
        | [] => completesAddress fuel (pieces + 1) gap []
        | '.' :: _ => count != 0 && pieces ≤ 6 && isQuad cs && (gap || pieces == 6)
        | ':' :: rest => !rest.isEmpty && completesAddress fuel (pieces + 1) gap rest
        | _ => false

/-- Whether a text is an address of eight pieces. -/
def isBracketAddress (cs : List Char) : Bool :=
  match cs with
  | [] | [_] => false
  | ':' :: ':' :: rest => completesAddress (cs.length + 1) 1 true rest
  | ':' :: _ => false
  | _ => completesAddress (cs.length + 1) 0 false cs

/-! ## Addresses of four numbers -/

/-- The value of some digits in a base, if all are digits of it. -/
def valueIn? (base : Nat) (cs : List Char) : Option Nat :=
  cs.foldlM (fun n c => do
    let digit ← hexDigit? c
    if digit < base then some (base * n + digit) else none) 0

/-- The number that a part of an address is: decimal, octal after a zero, hexadecimal after `0x`. -/
def addressNumber? : List Char → Option Nat
  | [] => none
  | '0' :: 'x' :: rest | '0' :: 'X' :: rest => valueIn? 16 rest
  | '0' :: c :: rest => valueIn? 8 (c :: rest)
  | cs => valueIn? 10 cs

/-- Whether the last part of a name is a number, so that the name has to be an address. -/
def endsInNumber (parts : List (List Char)) : Bool :=
  let last := match parts.reverse with
    | [] :: more => more.head?
    | last :: _ => some last
    | [] => none
  match last with
  | none => false
  | some part => (!part.isEmpty && part.all Char.isDigit) || (addressNumber? part).isSome

/-- Whether the parts of a name are those of an address: at most four numbers, of which the last
fills the places of those that are missing. -/
def isAddress (parts : List (List Char)) : Bool :=
  let parts := if parts.getLast? = some [] then parts.dropLast else parts
  match parts.mapM addressNumber? with
  | none => false
  | some numbers =>
    match numbers.reverse with
    | [] => false
    | last :: others =>
      numbers.length ≤ 4 && others.all (· ≤ 255) && last < Nat.pow 256 (4 - others.length)

/-! ## Hosts -/

/-- Checks the host of a URL of a known scheme. -/
def checkHost (host : String) : Except Fault Unit :=
  match host.toList with
  | '[' :: rest =>
    if rest.getLast? = some ']' ∧ isBracketAddress rest.dropLast then .ok ()
    else .error .addressInBrackets
  | _ =>
    match nameParts? (percentDecode host) with
    | none => .error .internationalName
    | some parts =>
      if parts = [[]] then .error .emptyHost
      else if endsInNumber parts ∧ !isAddress parts then .error .addressOfFour
      else .ok ()

/-- Checks the host of a URL of another scheme, which is kept as it is. -/
def checkOpaqueHost (host : String) : Except Fault Unit :=
  match host.toList with
  | '[' :: rest =>
    if rest.getLast? = some ']' ∧ isBracketAddress rest.dropLast then .ok ()
    else .error .addressInBrackets
  | cs =>
    if cs.any fun c => "\x00\t\n\r #/:<>?@[\\]^|".toList.contains c then .error .domainCharacter
    else .ok ()

end RestQuery.Url
