import RestQuery.Json.Decode
import RestQuery.Model.Basic

/-!
# Models as values of other types

A record and what is attached to it can be read as a value of any type for which there is a decoder.
-/

namespace RestQuery.Model

/-- The record, with its related records under their names, as a value that a decoder reads. -/
def decode? {α : Type} (decoder : Json.Decoder α) (m : Model) : Except Error α :=
  (decoder m.toJson).mapError .undecodable

end RestQuery.Model
