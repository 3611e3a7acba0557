import RestQuery.Http.Status

/-!
# Errors

Everything that an operation of the library can fail with. Only a refusal by the server can be
transient; a malformed query, a missing key or a broken transport is not tried again.
-/

namespace RestQuery

/-- Why an operation failed. -/
inductive Error where
  /-- A text names no comparison, connective or condition. -/
  | unsupportedOperator (text : String)
  /-- A membership condition on a field has no values. -/
  | emptyMembership (field : String)
  /-- A record of a type lacks its primary key, or the type declares none. -/
  | missingPrimaryKey (typeName : String)
  /-- A type does not declare an attribute. -/
  | unknownAttribute (typeName name : String)
  /-- A type does not declare a relation. -/
  | unknownRelation (typeName name : String)
  /-- The configuration of a connection cannot be used. -/
  | configuration (reason : String)
  /-- The server answered, but not with success. -/
  | refused (refusal : Http.Refusal)
  /-- No answer came. -/
  | transport (reason : String)
  /-- An answer is not of the expected form. -/
  | undecodable (reason : String)
  /-- The connection was cancelled. -/
  | cancelled
  /-- A cursor was not drained within the pages that the connection allows for one. -/
  | unfinished
  deriving DecidableEq

namespace Error

/-- The error in words. -/
def message : Error → String
  | unsupportedOperator text => "unsupported operator: " ++ text
  | emptyMembership field => "IN condition on `" ++ field ++ "` has no values"
  | missingPrimaryKey typeName => "primary key of `" ++ typeName ++ "` can not be empty"
  | unknownAttribute typeName name =>
    "unknown attribute `" ++ name ++ "` on `" ++ typeName ++ "`"
  | unknownRelation typeName name =>
    "unknown relation `" ++ name ++ "` on `" ++ typeName ++ "`"
  | configuration reason => "invalid configuration: " ++ reason
  | refused refusal => refusal.message
  | transport reason => "transport error: " ++ reason
  | undecodable reason => "failed to decode response: " ++ reason
  | cancelled => "request cancelled"
  | unfinished => "more pages than a cursor may read"

/-- The refusal by the server, if that is the error. -/
def refusal? : Error → Option Http.Refusal
  | refused refusal => some refusal
  | _ => none

/-- Whether the same operation may succeed later. -/
def isTransient : Error → Bool
  | refused refusal => refusal.failure.isTransient
  | _ => false

end Error

/-- The response itself if it tells success, else the refusal that it is. -/
def Response.check (r : Response) : Except Error Response :=
  match Http.Failure.ofStatus? r.status with
  | none => .ok r
  | some failure => .error (.refused ⟨failure, r⟩)

end RestQuery
