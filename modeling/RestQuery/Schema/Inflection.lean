import RestQuery.Text.Cut
import RestQuery.Text.Letters

/-!
# Resource paths by name

The resource path of a type is its name in lower case, its words joined by hyphens, the last word in
the plural: `OrderItem` is found under `order-items`.

Words are divided where neither a letter nor a digit stands, between a lower-case and an upper-case
letter, and before the last of several upper-case letters if a lower-case letter follows:
`XMLHttpRequest` has the words `XML`, `Http` and `Request`.
-/

namespace RestQuery.Inflection

open Text

/-- The case of the last letter of a word so far that has one. -/
inductive Case where
  | none
  | lower
  | upper

/-- The case after a character; one without case keeps it. -/
def Case.after (case : Case) (c : Char) : Case :=
  if isLowercase c then .lower else if isUppercase c then .upper else case

/-- Divides a run of letters and digits into words. `word` holds the characters of the word so far,
last first, and `case` its case. -/
def words (word : List Char) (case : Case) : List Char → List (List Char)
  | [] => if word.isEmpty then [] else [word.reverse]
  | [c] => [(c :: word).reverse]
  | c :: next :: rest =>
    match case.after c, case with
    | .lower, _ =>
      if isUppercase next then (c :: word).reverse :: words [] .none (next :: rest)
      else words (c :: word) .lower (next :: rest)
    | .upper, .upper =>
      if isUppercase c ∧ isLowercase next then
        word.reverse :: words [c] .none (next :: rest)
      else words (c :: word) .upper (next :: rest)
    | after, _ => words (c :: word) after (next :: rest)

/-- Runs of letters and digits. -/
def runs : List Char → List (List Char)
  | [] => [[]]
  | c :: rest =>
    if isAlphanumeric c then
      match runs rest with
      | [] => [[c]]
      | run :: more => (c :: run) :: more
    else [] :: runs rest

/-- A word in lower case. A sigma at its end takes the final form. -/
def lowerWord : List Char → List Char
  | [] => []
  | [c] => if c = 'Σ' then ['ς'] else lowerChar c
  | c :: rest => lowerChar c ++ lowerWord rest

/-- The words of a name in lower case, joined by hyphens. -/
def hyphenated (name : String) : String :=
  let parts := ((runs name.toList).flatMap (words [] .none)).map lowerWord
  String.intercalate "-" (parts.map String.ofList)

/-- Nouns with a plural of their own. -/
def irregular : List (String × String) :=
  [("person", "people"), ("child", "children"), ("man", "men"), ("woman", "women"),
   ("mouse", "mice"), ("goose", "geese")]

/-- Nouns without a plural. -/
def uncountable : List String :=
  ["data", "equipment", "information", "media", "news", "series"]

/-- The plural of a lower-case noun: by the exceptions, else `ies` for a `y` after anything but a
vowel, `es` after a hiss, and `s`. -/
def plural (word : String) : String :=
  if word = "" ∨ word ∈ uncountable then word
  else match irregular.find? (·.1 == word) with
    | some (_, form) => form
    | none =>
      match word.toList.reverse with
      | 'y' :: stem =>
        match stem with
        | 'a' :: _ | 'e' :: _ | 'i' :: _ | 'o' :: _ | 'u' :: _ => word ++ "s"
        | _ => String.ofList stem.reverse ++ "ies"
      | 's' :: _ | 'x' :: _ | 'z' :: _ | 'h' :: 'c' :: _ | 'h' :: 's' :: _ => word ++ "es"
      | _ => word ++ "s"

/-- The resource path of a type, by its name. -/
def resourcePath (typeName : String) : String :=
  let name := hyphenated typeName
  match cutLast '-' name with
  | some (head, last) => head ++ "-" ++ plural last
  | none => plural name

end RestQuery.Inflection
