import RestQuery.Proofs.Page.Inline

/-!
# Loading relations leaves the attributes alone

Relations that are read by further requests are attached to the records of a page. However deep the
relations go, the records stay in their order, and they keep their type and their attributes: the
loader of every query has `Loader.KeepsContents` (`Connection.loader_keepsContents`), since it
extends each record (`Connection.loadForest_relates`). In particular the records keep their keys
(`Connection.loader_keepsKeys`).
-/

namespace RestQuery

open Session

namespace Model

/-- The primary keys of some records, where they are complete. -/
def keys (models : List Model) : List (Option (List Json)) := models.map primaryKey?

/-- What a record is but for what is attached to it. -/
def content (m : Model) : Schema × KeyMap Json := (m.schema, m.attributes)

/-- Some records but for what is attached to them. -/
def contents (models : List Model) : List (Schema × KeyMap Json) := models.map content

/-- The keys of records are told by their contents. -/
theorem keys_eq_of_contents {models models' : List Model} (h : contents models = contents models') :
    keys models = keys models' := by
  have hkeys : ∀ models : List Model,
      keys models = (contents models).map fun (s, attributes) => keyOf? s attributes := by
    intro models
    rw [contents, List.map_map]
    rfl
  rw [hkeys, hkeys, h]

end Model

variable {σ : Type}

/-- Whether records come back from a loader in order and with their contents. -/
def Loader.KeepsContents (load : Loader σ) : Prop :=
  ∀ models, (load models).Returns fun loaded => Model.contents loaded = Model.contents models

/-- A loader that extends each record keeps the contents. -/
theorem Loader.Relates.keepsContents {load : Loader σ} {forest : List RelationTree}
    (h : load.Relates (RelationTree.Loaded forest)) : load.KeepsContents := by
  intro models w after loaded heval
  have hloaded := h models w after loaded heval
  clear heval
  induction hloaded with
  | nil => rfl
  | cons hrecord _ ih =>
    obtain ⟨hextends, -⟩ := hrecord
    exact congrArg₂ (· :: ·) (Prod.ext hextends.schema hextends.attributes) ih

namespace Connection

/-- The relations of a query are loaded without a change of the contents. -/
theorem loader_keepsContents (conn : Connection σ) (q : Query) :
    Loader.KeepsContents (conn.loader q) := by
  unfold loader
  split
  · exact (loadForest_relates conn _ _ (RelationTree.allApart_ofPaths _)).keepsContents
  · exact fun models => returns_pure rfl

/-- The relations of a query are loaded without a change of the keys. -/
theorem loader_keepsKeys (conn : Connection σ) (q : Query) (models : List Model) :
    (conn.loader q models).Returns fun loaded => Model.keys loaded = Model.keys models :=
  fun w after loaded h =>
    Model.keys_eq_of_contents (conn.loader_keepsContents q models w after loaded h)

end Connection

end RestQuery
