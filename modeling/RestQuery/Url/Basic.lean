import RestQuery.Text.Blank
import RestQuery.Url.Host

/-!
# Absolute URLs

`Url.check` tells whether a text is an absolute URL by the URL standard, and where it is not, why.
Control characters and blanks at the ends are no part of it, and tabs and line ends none anywhere.
For the schemes of the web any number of slashes, also backward ones, may stand before the host,
which must not be empty; a file may have a host; any other URL has one only after two slashes.
-/

namespace RestQuery.Url

open Text

/-- What a scheme tells of the URL. -/
inductive Kind where
  /-- A file. -/
  | file
  /-- Another scheme of the web. -/
  | web
  | other
  deriving DecidableEq

/-- The kind of a scheme in lower case. -/
def Kind.of (scheme : String) : Kind :=
  if scheme = "file" then .file
  else if scheme ∈ ["http", "https", "ws", "wss", "ftp"] then .web
  else .other

/-- Whether a character can stand in a scheme, except as the first. -/
def isSchemeChar (c : Char) : Bool := c.isAlphanum || c == '+' || c == '-' || c == '.'

/-- Whether a backward slash counts as a slash. -/
def isSlash (kind : Kind) (c : Char) : Bool := c == '/' || (c == '\\' && kind != .other)

/-- Whether a character ends the authority of a URL. -/
def endsAuthority (kind : Kind) (c : Char) : Bool :=
  isSlash kind c || c == '?' || c == '#'

/-- The scheme of a text, in lower case, and what follows the colon after it. -/
def scheme? (cs : List Char) : Option (String × List Char) :=
  match cs with
  | c :: _ =>
    if c.isAlpha then
      match cs.dropWhile isSchemeChar with
      | ':' :: rest => some (lower (String.ofList (cs.takeWhile isSchemeChar)), rest)
      | _ => none
    else none
  | [] => none

/-- The host of an authority without its user, and what follows it: a colon in brackets is part of
the host. -/
def splitHost (inBrackets : Bool) : List Char → List Char × List Char
  | [] => ([], [])
  | c :: rest =>
    if c = ':' ∧ !inBrackets then ([], c :: rest)
    else
      let inside := if c = '[' then true else if c = ']' then false else inBrackets
      let (host, after) := splitHost inside rest
      (c :: host, after)

/-- Checks the port of an authority. A backward slash ends it, also where it is no slash. -/
def checkPort (cs : List Char) : Except Fault Unit :=
  let port := cs.takeWhile (· != '\\')
  if port.all Char.isDigit ∧ digitsValue 0 port ≤ 0xFFFF then .ok () else .error .port

/-- Checks what follows two slashes: perhaps a user, a host, perhaps a port. A user without a name
and without a password is none. -/
def checkAuthority (kind : Kind) (cs : List Char) : Except Fault Unit := do
  let authority := cs.takeWhile fun c => !endsAuthority kind c
  let ended := !(cs.drop authority.length).isEmpty
  let (user, rest) := match cutChars '@' authority.reverse with
    | some (after, before) => (some before.reverse, after.reverse)
    | none => (none, authority)
  if user = some [] ∧ rest.isEmpty ∧ ended then throw .emptyHost
  let (host, after) := splitHost false rest
  if host.isEmpty then
    if kind = .web ∨ !after.isEmpty ∨ user.any (fun u => u ≠ [] ∧ u ≠ [':']) then throw .emptyHost
  else if kind = .web then checkHost (String.ofList host)
  else checkOpaqueHost (String.ofList host)
  checkPort (after.drop 1)

/-- Whether a host is really the letter of a drive. -/
def isDrive (cs : List Char) : Bool :=
  match cs with
  | [c, d] => c.isAlpha && (d == ':' || d == '|')
  | _ => false

/-- Checks what follows the scheme of a file. -/
def checkFile (cs : List Char) : Except Fault Unit :=
  match cs with
  | a :: b :: rest =>
    if isSlash .file a ∧ isSlash .file b then
      let host := rest.takeWhile fun c => !endsAuthority .file c
      if host.isEmpty ∨ isDrive host then .ok () else checkHost (String.ofList host)
    else .ok ()
  | _ => .ok ()

/-- Checks that a text is an absolute URL. -/
def check (s : String) : Except Fault Unit :=
  let cs := (stripWhile (fun c => c.toNat ≤ 0x20) s.toList).filter fun c =>
    c != '\t' && c != '\n' && c != '\r'
  match scheme? cs with
  | none => .error .relative
  | some (scheme, rest) =>
    match Kind.of scheme with
    | .file => checkFile rest
    | .web => checkAuthority .web (rest.dropWhile (isSlash .web))
    | .other =>
      match rest with
      | '/' :: '/' :: rest => checkAuthority .other rest
      | _ => .ok ()

end RestQuery.Url
