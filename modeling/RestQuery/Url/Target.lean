import RestQuery.Text.Percent
import RestQuery.Url.Basic

/-!
# Where a URL leads

A URL of the web is taken apart into its origin, path, query and fragment, each percent-encoded as
far as it has to be. Segments of the path that stand for the place itself or for the one above are
resolved. `Parts.target` is what a request for the URL names, which leaves the fragment out.

`formPairs` writes pairs the way forms are sent, and `Parts.withPairs` adds them to the query.
-/

namespace RestQuery.Url

open Text

/-- A URL of the web in parts. -/
structure Parts where
  /-- The scheme and the authority. -/
  origin : String
  path : String
  query : Option String := none
  fragment : Option String := none

/-- Whether a character is visible in ASCII and none of some others. -/
def isVisibleBut (others : List Char) (c : Char) : Bool :=
  0x20 < c.toNat && c.toNat < 0x7F && !others.contains c

/-- Whether a segment stands for the place itself. -/
def isHere (segment : String) : Bool := [".", "%2e"].contains (lower segment)

/-- Whether a segment stands for the place above. -/
def isAbove (segment : String) : Bool :=
  ["..", ".%2e", "%2e.", "%2e%2e"].contains (lower segment)

/-- The segments of a path without those that stand for a place. `above` holds the segments so far,
last first. -/
def resolveSegments (above : List String) : List String → List String
  | [] => above.reverse
  | [segment] =>
    if isAbove segment then ("" :: above.drop 1).reverse
    else if isHere segment then ("" :: above).reverse
    else (segment :: above).reverse
  | segment :: rest =>
    if isAbove segment then resolveSegments (above.drop 1) rest
    else if isHere segment then resolveSegments above rest
    else resolveSegments (segment :: above) rest

/-- The path that some characters after an authority spell. -/
def pathOf (cs : List Char) : String :=
  let segments := piecesOf '/' ((cs.map fun c => if c = '\\' then '/' else c).drop 1)
  let encoded := segments.map fun s =>
    percentEncode (isVisibleBut ['"', '#', '<', '>', '?', '\x60', '\x7b', '\x7d']) (String.ofList s)
  "/" ++ String.intercalate "/" (resolveSegments [] encoded)

/-- The parts of a text that `check` accepts as a URL of the web. -/
def parts (s : String) : Parts :=
  let cs := (stripWhile (fun c => c.toNat ≤ 0x20) s.toList).filter fun c =>
    c != '\t' && c != '\n' && c != '\r'
  let (scheme, rest) := (scheme? cs).getD ("", cs)
  let rest := rest.dropWhile (isSlash .web)
  let authority := rest.takeWhile fun c => !endsAuthority .web c
  let (located, fragment) := match cutChars '#' (rest.drop authority.length) with
    | some (located, fragment) => (located, some fragment)
    | none => (rest.drop authority.length, none)
  let (path, query) := match cutChars '?' located with
    | some (path, query) => (path, some query)
    | none => (located, none)
  { origin := scheme ++ "://" ++ String.ofList authority
    path := pathOf path
    query := query.map fun q =>
      percentEncode (isVisibleBut ['"', '#', '<', '>', '\'']) (String.ofList q)
    fragment := fragment.map fun f =>
      percentEncode (isVisibleBut ['"', '<', '>', '\x60']) (String.ofList f) }

/-- A text as forms are sent. -/
def formText (s : String) : String :=
  let plain (c : Char) : Bool :=
    c.isAlphanum || c == '*' || c == '-' || c == '.' || c == '_' || c == ' '
  (percentEncode plain s).map fun c => if c = ' ' then '+' else c

/-- Some pairs as forms are sent. -/
def formPairs (pairs : List (String × String)) : String :=
  String.intercalate "&" (pairs.map fun (name, value) => formText name ++ "=" ++ formText value)

namespace Parts

/-- The URL with some pairs after those of its query. -/
def withPairs (p : Parts) (pairs : List (String × String)) : Parts :=
  if pairs.isEmpty then p
  else
    let before := match p.query with
      | some query => if query = "" then "" else query ++ "&"
      | none => ""
    { p with query := some (before ++ formPairs pairs) }

/-- A mark and a text, if there is one. -/
def marked (mark : String) (value : Option String) : String :=
  (value.map (mark ++ ·)).getD ""

/-- What a request for the URL names. -/
def target (p : Parts) : String := p.path ++ marked "?" p.query

/-- The URL itself. -/
def text (p : Parts) : String := p.origin ++ p.target ++ marked "#" p.fragment

end Parts

end RestQuery.Url
