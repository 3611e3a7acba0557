import RestQuery.Json.Text
import RestQuery.Text.Percent

/-!
# Keys of records

A key is compared by its text, and it travels as one segment of a path: everything but letters,
digits and a few marks is percent-encoded. The parts of a key of several fields are separated by
commas.
-/

namespace RestQuery.Key

/-- Whether a character stands for itself in a segment. -/
def isPlain (c : Char) : Bool :=
  c.isAlphanum || c == '-' || c == '_' || c == '.' || c == '~' || c == ','

/-- A key as one segment of a path. -/
def segment (key : String) : String := Text.percentEncode isPlain key

/-- The text of a key of several values. -/
def text (values : List Json) : String :=
  String.intercalate "," (values.map Json.keyText)

end RestQuery.Key
