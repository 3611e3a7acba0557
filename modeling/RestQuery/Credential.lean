import RestQuery.KeyMap

/-!
# Credentials

A connection attaches a credential to every request. It is given once, or by a source that is asked
again for every request; the `n`-th request of a source is its own question, so a source is a
function of the number of requests before.
-/

namespace RestQuery

/-- What the header `Authorization` is made of. -/
inductive Credential where
  | bearer (token : String)
  /-- A value sent as it is. -/
  | raw (value : String)
  deriving DecidableEq

/-- The value of the header; an empty credential has none. -/
def Credential.header? : Credential → Option String
  | bearer token => if token = "" then none else some ("Bearer " ++ token)
  | raw value => if value = "" then none else some value

/-- Where the credential of a request comes from. -/
inductive Auth where
  | none
  | fixed (credential : Credential)
  /-- Asked for every request, with the number of times it was asked before. -/
  | dynamic (source : Nat → Option Credential)

namespace Auth

/-- The value of the header, when a dynamic source was asked so often before. -/
def header? (a : Auth) (asked : Nat) : Option String :=
  match a with
  | none => .none
  | fixed credential => credential.header?
  | dynamic source => (source asked).bind Credential.header?

/-- The headers that carry the credential, when a dynamic source was asked so often before. -/
def headers (a : Auth) (asked : Nat) : KeyMap String :=
  match a.header? asked with
  | some value => [("Authorization", value)]
  | .none => []

/-- The source that gives some credentials one after another, and the last again from then on. -/
def sequence (credentials : List (Option Credential)) : Auth :=
  dynamic fun asked => (credentials[min asked (credentials.length - 1)]?).join

/-- How the source is shown, without the credential. -/
def description : Auth → String
  | none => "None"
  | fixed _ => "Static(..)"
  | dynamic _ => "Dynamic(..)"

end Auth

end RestQuery
