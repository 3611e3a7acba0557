import RestQuery.Config.Basic
import RestQuery.Text.Blank

/-!
# Configuration by the environment

A configuration can be given by variables. Only the base URL has to be; a variable that is set but
does not hold a value of its kind is an error, and of several such the first in the order below.
-/

namespace RestQuery.Config

/-- The variables of a process, by name. -/
abbrev Environment := KeyMap String

/-- What a variable sets, read after blanks around it are removed. -/
def setting {α : Type} (env : Environment) (name : String) (read? : String → Option α)
    (default : α) : Except Error α :=
  match env.get? name with
  | none => .ok default
  | some value =>
    match read? (Text.trim value) with
    | some v => .ok v
    | none => .error (.configuration ("invalid " ++ name ++ ": `" ++ value ++ "`"))

/-- The configuration that some variables give. -/
def ofEnvironment (env : Environment) : Except Error Config := do
  let baseUrl ← match env.get? "RESTAR_BASE_URL" with
    | some url => .ok url
    | none => .error (.configuration "RESTAR_BASE_URL is required")
  let word64 := Text.nat? Text.maxWord64
  let word32 := Text.nat? Text.maxWord32
  let c : Config := { baseUrl := baseUrl }
  let p := c.retry
  let defaultPerPage ← setting env "RESTAR_DEFAULT_PER_PAGE" word64 c.defaultPerPage
  let maxPerPage ← setting env "RESTAR_MAX_PER_PAGE" word64 c.maxPerPage
  let timeout ← setting env "RESTAR_TIMEOUT_MS" word64 c.timeout
  let strict ← setting env "RESTAR_STRICT_ATTRIBUTES" Text.bool? c.strict
  let enabled ← setting env "RESTAR_RETRY" Text.bool? p.enabled
  let maxRetries ← setting env "RESTAR_MAX_RETRIES" word32 p.maxRetries
  let maxTotalWait ← setting env "RESTAR_MAX_RETRY_WAIT_MS" word64 p.maxTotalWait
  let baseInterval ← setting env "RESTAR_RETRY_INTERVAL_MS" word64 p.baseInterval
  let multiplier ← setting env "RESTAR_RETRY_MULTIPLIER" word32 p.multiplier
  return { c with
    defaultPerPage := defaultPerPage
    maxPerPage := maxPerPage
    timeout := timeout
    envelope := env.get? "RESTAR_COLLECTION_ENVELOPE"
    strict := strict
    retry := {
      enabled := enabled
      maxRetries := maxRetries
      maxTotalWait := maxTotalWait
      baseInterval := baseInterval
      multiplier := multiplier } }

end RestQuery.Config
