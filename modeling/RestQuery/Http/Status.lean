import RestQuery.Http.Response

/-!
# Failures by status

`Failure.ofStatus?` classifies a status; exactly the statuses from 200 to 299 are no failure. Too
many requests, a server error and an unavailable service may pass, the other failures stay.
-/

namespace RestQuery.Http

/-- What the status of an unsuccessful response tells. -/
inductive Failure where
  | badRequest
  | unauthorized
  | forbidden
  | notFound
  | notAllowed
  | notAcceptable
  | dataValidation
  | tooManyRequests
  | serverError
  | serviceUnavailable
  | other (status : Nat)
  deriving DecidableEq, Repr

namespace Failure

/-- The failure that a status tells, if any. -/
def ofStatus? (status : Nat) : Option Failure :=
  if 200 ≤ status ∧ status < 300 then none
  else match status with
    | 400 => some .badRequest
    | 401 => some .unauthorized
    | 403 => some .forbidden
    | 404 => some .notFound
    | 405 => some .notAllowed
    | 406 => some .notAcceptable
    | 422 => some .dataValidation
    | 429 => some .tooManyRequests
    | 500 => some .serverError
    | 503 => some .serviceUnavailable
    | status => some (.other status)

/-- The status that tells the failure. -/
def status : Failure → Nat
  | badRequest => 400
  | unauthorized => 401
  | forbidden => 403
  | notFound => 404
  | notAllowed => 405
  | notAcceptable => 406
  | dataValidation => 422
  | tooManyRequests => 429
  | serverError => 500
  | serviceUnavailable => 503
  | other status => status

/-- Whether the same request may succeed later. -/
def isTransient : Failure → Bool
  | tooManyRequests | serverError | serviceUnavailable => true
  | _ => false

/-- The name of the failure. -/
def name : Failure → String
  | badRequest => "bad_request"
  | unauthorized => "unauthorized"
  | forbidden => "forbidden"
  | notFound => "not_found"
  | notAllowed => "not_allowed"
  | notAcceptable => "not_acceptable"
  | dataValidation => "data_validation"
  | tooManyRequests => "too_many_requests"
  | serverError => "server_error"
  | serviceUnavailable => "service_unavailable"
  | other _ => "other"

/-- The failure in words. -/
def description : Failure → String
  | badRequest => "Bad request"
  | unauthorized => "Unauthorized"
  | forbidden => "Forbidden"
  | notFound => "Not found"
  | notAllowed => "Not allowed"
  | notAcceptable => "Not acceptable"
  | dataValidation => "Data validation failed"
  | tooManyRequests => "Too many requests"
  | serverError => "Server error"
  | serviceUnavailable => "Service unavailable"
  | other status => "Unexpected status " ++ toString status

/-- A classified status can be read back. -/
theorem status_of_ofStatus? {n : Nat} {f : Failure} (h : ofStatus? n = some f) : f.status = n := by
  unfold ofStatus? at h
  split at h
  · cases h
  · split at h <;> cases h <;> rfl

end Failure

/-- An unsuccessful response, kept whole, with what its status tells. -/
structure Refusal where
  failure : Failure
  response : Response
  deriving DecidableEq

namespace Refusal

/-- The refusal in words. -/
def message (r : Refusal) : String :=
  r.failure.description ++ " (HTTP " ++ toString r.response.status ++ ")"

/-- The methods that the server allows. -/
def allow? (r : Refusal) : Option String :=
  r.response.header? "allow"

/-- What the server would accept, by the headers that tell it and are not empty. -/
def negotiation (r : Refusal) : KeyMap String :=
  ["Accept", "Accept-Charset", "Accept-Encoding", "Accept-Language"].filterMap fun name =>
    ((r.response.header? name).filter (· ≠ "")).map fun value => (name, value)

end Refusal

end RestQuery.Http
