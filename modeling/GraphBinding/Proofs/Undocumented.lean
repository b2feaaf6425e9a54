import GraphBinding.Proofs.Generation

namespace GraphBinding

/-! Documents without their documentation.

Whether a schema can be generated, and what is asked of the catalog for it, can be told from the
document without documentation.  What is drafted for both differs only in the document itself,
which no alias looks at.  Nothing that is computed of a single field reads its documentation, so
that there both sides are the same by definition.
-/

def Field.undocumented (field : Field) : Field := { field with documentation := none }

def Model.undocumented (model : Model) : Model :=
  { model with
    fields := model.fields.map Field.undocumented
    documentation := none }

def Enum.undocumented (enum : Enum) : Enum := { enum with documentation := none }

def Document.undocumented (document : Document) : Document where
  models := document.models.map Model.undocumented
  enums := document.enums.map Enum.undocumented

namespace Model

variable (model : Model) (projection : IdProjection)

theorem field?_undocumented (name : String) :
    model.undocumented.field? name = (model.field? name).map Field.undocumented :=
  List.find?_map ..

theorem identifiers?_undocumented : model.undocumented.identifiers? = model.identifiers? := by
  have ids : model.undocumented.fields.filter (·.isId) =
      (model.fields.filter (·.isId)).map Field.undocumented := List.filter_map ..
  have unique : model.undocumented.fields.find? (·.isUnique) =
      (model.fields.find? (·.isUnique)).map Field.undocumented := List.find?_map ..
  have key : model.undocumented.primaryKeyFields = model.primaryKeyFields := rfl
  have group : model.undocumented.uniqueGroup? = model.uniqueGroup? := rfl
  rw [identifiers?, identifiers?, ids, unique, key, group]
  generalize model.fields.filter (·.isId) = marked
  generalize model.fields.find? (·.isUnique) = first
  rcases marked with _ | ⟨field, _ | ⟨other, rest⟩⟩
  · cases first <;> rfl
  · rfl
  · cases first <;> rfl

theorem unidentified?_undocumented :
    model.undocumented.unidentified? = model.unidentified? := by
  rw [unidentified?, identifiers?_undocumented, unidentified?]
  rfl

theorem unsupportedField?_undocumented :
    model.undocumented.unsupportedField? = model.unsupportedField? :=
  List.findSome?_map ..

theorem missingIdentifier?_undocumented (identifiers : List String) :
    model.undocumented.missingIdentifier? identifiers = model.missingIdentifier? identifiers := by
  simp only [missingIdentifier?, field?_undocumented, Option.map_eq_none_iff]
  rfl

theorem identifierType_undocumented :
    Projection.identifierType model.undocumented projection =
      Projection.identifierType model projection := by
  funext identifier
  rw [Projection.identifierType, Projection.identifierType, field?_undocumented]
  cases model.field? identifier <;> rfl

theorem typedIdentifiers_undocumented :
    model.undocumented.typedIdentifiers projection = model.typedIdentifiers projection := by
  funext identifiers
  rw [typedIdentifiers, identifierType_undocumented, typedIdentifiers]

theorem requests_undocumented :
    model.undocumented.requests projection = model.requests projection := by
  have asked : model.undocumented.fields.filterMap (·.request? projection) =
      model.fields.filterMap (·.request? projection) := List.filterMap_map ..
  have conditions : model.undocumented.conditions projection = model.conditions projection :=
    List.filterMap_map ..
  have name : model.undocumented.name = model.name := rfl
  simp only [requests, whereRequests, whereInput, uniqueRequests, compound?, uniqueInput, keyField,
    asked, conditions, name, typedIdentifiers_undocumented, identifiers?_undocumented]

end Model

namespace Draft

/-- The draft as it is for another document. -/
def under (draft : Draft) (document : Document) : Draft := { draft with document }

theorem aliasField_under (draft : Draft) (document : Document)
    (inputType field exposed : String) :
    (draft.under document).aliasField inputType field exposed =
      (draft.aliasField inputType field exposed).map (·.under document) := by
  have catalog : (draft.under document).catalog = draft.catalog := rfl
  rw [aliasField, aliasField, catalog]
  cases draft.catalog.inputs.find? inputType with
  | none => rfl
  | some type =>
      dsimp only
      split
      · rfl
      · split <;> rfl

theorem renameAll_under (draft : Draft) (document : Document)
    (renamings : List (String × String × String)) :
    (draft.under document).renameAll renamings =
      (draft.renameAll renamings).map (·.under document) := by
  induction renamings generalizing draft with
  | nil => rfl
  | cons first rest ih =>
      obtain ⟨inputType, field, exposed⟩ := first
      simp only [renameAll, List.foldlM_cons, aliasField_under] at ih ⊢
      cases draft.aliasField inputType field exposed with
      | error reason => rfl
      | ok renamed => exact ih renamed

end Draft

namespace Document

variable (document : Document) (settings : Settings)

theorem names_undocumented :
    document.undocumented.models.map Model.name = document.models.map Model.name :=
  List.map_map ..

theorem identifiers_undocumented : document.undocumented.identifiers = document.identifiers := by
  simp only [identifiers, undocumented, List.map_map, Function.comp_def,
    Model.identifiers?_undocumented]
  rfl

theorem requests_undocumented (projection : IdProjection) :
    document.undocumented.requests projection = document.requests projection := by
  simp only [requests, undocumented, List.flatMap_map, Model.requests_undocumented]

theorem draft_undocumented :
    document.undocumented.draft settings =
      (document.draft settings).under document.undocumented := by
  rw [draft, requests_undocumented, identifiers_undocumented]
  rfl

theorem violation?_undocumented :
    document.undocumented.violation? settings = document.violation? settings := by
  have unidentified : document.undocumented.models.findSome? Model.unidentified? =
      document.models.findSome? Model.unidentified? := by
    simp only [undocumented, List.findSome?_map, Function.comp_def,
      Model.unidentified?_undocumented]
  have unsupported : document.undocumented.models.findSome? Model.unsupportedField? =
      document.models.findSome? Model.unsupportedField? := by
    simp only [undocumented, List.findSome?_map, Function.comp_def,
      Model.unsupportedField?_undocumented]
  have missing : (document.undocumented.models.findSome? fun model =>
        model.missingIdentifier? (document.undocumented.identifiersOf model.name)) =
      document.models.findSome? fun model =>
        model.missingIdentifier? (document.identifiersOf model.name) := by
    simp only [identifiersOf, identifiers_undocumented]
    simp only [undocumented, List.findSome?_map, Function.comp_def,
      Model.missingIdentifier?_undocumented]
    rfl
  have aliases : refusal? ((document.undocumented.draft settings).renameAll settings.renamings) =
      refusal? ((document.draft settings).renameAll settings.renamings) := by
    rw [draft_undocumented, Draft.renameAll_under, refusal?_map]
  rw [violation?, unidentified, unsupported, missing, names_undocumented, aliases, violation?]

end Document

end GraphBinding
