import GraphBinding.Projection.Inputs
import GraphBinding.Projection.Query

namespace GraphBinding

/-! The type graph of a document.

Identities come first, because a model without one stops everything.  The objects follow,
then the inputs of each model, then the query type, and at last the declared aliases.
-/

namespace Projection

def identify (model : Model) : Drafting Unit := do
  let identifiers ← ofExcept model.identifiers
  modify fun draft => { draft with identifiers := draft.identifiers.insert model.name identifiers }

def defineInputs (model : Model) : Drafting Unit := do
  defineWhereInput model
  defineWhereUniqueInput model

def declareAliases (aliases : Table (Table String)) : Drafting Unit :=
  aliases.entries.forM fun (inputType, renamings) =>
    renamings.entries.forM fun (field, exposed) => Drafting.aliasField inputType field exposed

/-- Makes every type of the draft's document, under native names. -/
def assemble : Drafting TypeGraph := do
  let draft ← get
  let models := draft.document.models
  let settings := draft.settings
  models.forM identify
  let objects ← ofExcept (models.mapM (modelObject settings))
  models.forM defineInputs
  let query ← ofExcept (queryObject (models.map Model.name))
  return {
    models := .ofEntries ((models.map Model.name).zip objects)
    listResults := .ofValues ObjectType.name (models.map fun model => listResult model.name)
    enums := .ofValues (·.type.name) (draft.document.enums.map (documentedEnum settings))
    query }

/-- Makes everything of the draft's document, with the aliases that its settings declare. -/
def project : Drafting TypeGraph := do
  let graph ← assemble
  declareAliases (← get).settings.fieldAliases
  return graph

end Projection

namespace Draft

/-- The type graph, or why there is none, and the draft as far as it came. -/
def project (draft : Draft) : Except GenerationError TypeGraph × Draft :=
  Projection.project.run.run draft

end Draft

end GraphBinding
