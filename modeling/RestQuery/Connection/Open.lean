import RestQuery.Config.Validate
import RestQuery.Connection.Basic

/-!
# Opening a connection

A connection is opened over any backend, under a configuration that can be used. The base URL that
it has is the one that `Config.validate` leaves.
-/

namespace RestQuery.Connection

/-- The connection to a backend, given by the function that answers a request, for the types of a
catalog. A cursor that is drained reads at most `pageBudget` pages. -/
def open? {σ : Type} (catalog : Catalog) (config : Config) (auth : Auth)
    (answer : Request → σ → Except Error Response × σ) (epoch : Int) (pageBudget : Nat) :
    Except Error (Connection σ) :=
  config.validate.map fun config =>
    { catalog := catalog
      config := config
      auth := auth
      answer := answer
      epoch := epoch
      pageBudget := pageBudget }

end RestQuery.Connection
