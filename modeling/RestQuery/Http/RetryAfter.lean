import RestQuery.Http.Date
import RestQuery.Http.Status

/-!
# The wait that a server suggests

The header `Retry-After` holds a number of seconds or a date. Waits are counted in milliseconds; a
date that has passed suggests no wait.
-/

namespace RestQuery.Http

/-- The wait in milliseconds that the text of a header suggests at a moment, which is given in
milliseconds since 1970. -/
def suggestedWait? (moment : Int) (value : String) : Option Nat :=
  let value := Text.trim value
  if value = "" then none
  else match Text.nat? Text.maxWord64 value with
    | some seconds => some (1000 * seconds)
    | none => (Date.parse? value).map fun instant => (instant.millisecondsFrom moment).toNat

/-- The wait in milliseconds that a refusal suggests at a moment. -/
def Refusal.suggestedWait? (r : Refusal) (moment : Int) : Option Nat :=
  (r.response.header? "retry-after").bind (Http.suggestedWait? moment)

end RestQuery.Http
