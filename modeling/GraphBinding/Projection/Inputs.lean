import GraphBinding.Draft
import GraphBinding.Identity
import GraphBinding.Text.Words

namespace GraphBinding.Projection

/-! The `where` inputs of a model, and the filters and compound inputs they refer to. -/

/-- The input type by which a field is filtered, taken from the catalog. -/
def filterName? (model : Model) (field : Field) : Drafting (Option String) := do
  match field.kind, field.isList with
  | .scalar, isList => do
      let scalar ← ofExcept (field.scalar model)
      let graphName := scalar.graphName field.isId (← get).settings.idProjection
      if isList then
        let filter ← Drafting.withCatalog (·.scalarListFilter graphName)
        return some filter.name
      else
        let filter? ← Drafting.withCatalog (·.scalarFilter graphName scalar)
        return filter?.map InputType.name
  | .enumeration, true => do
      let filter ← Drafting.withCatalog (·.scalarListFilter field.type)
      return some filter.name
  | .enumeration, false => do
      let filter ← Drafting.withCatalog (·.enumFilter field.type)
      return some filter.name
  | .relation, true => do
      let filter ← Drafting.withCatalog (·.relationListFilter field.type)
      return some filter.name
  | .relation, false => return some (whereInputName field.type)
  | .unsupported, _ => return none

/-- A condition of its own for every field that has a filter. -/
def fieldCondition? (model : Model) (field : Field) : Drafting (Option InputField) := do
  return (← filterName? model field).map (Filter.one field.name)

/-- The conditions combined with each other and with those of the fields. -/
def defineWhereInput (model : Model) : Drafting Unit := do
  let name := whereInputName model.name
  let conditions ← model.fields.mapM (fieldCondition? model)
  let connectives := [Filter.many "AND" name, Filter.many "OR" name, Filter.many "NOT" name]
  let fields := connectives ++ conditions.filterMap id
  let _ ← Drafting.withCatalog (·.define (.ofFields name fields))

/-- An identifier of a model with its GraphQL type. -/
def identifierType (model : Model) (projection : IdProjection) (identifier : String) :
    Except GenerationError (String × String) :=
  match model.field? identifier with
  | some field => (field.graphName model projection).map fun type => (identifier, type)
  | none => .error (.identifierNotAField model.name identifier)

def compoundInputName (model : String) (identifiers : List String) : String :=
  model ++ String.join (identifiers.map Text.upperCamel) ++ "CompoundUniqueInput"

/-- One identifier is a field by itself; several are the fields of an input of their own. -/
def defineWhereUniqueInput (model : Model) : Drafting Unit := do
  let draft ← get
  let identifiers := (draft.identifiers.find? model.name).getD []
  let typed ← ofExcept
    (identifiers.mapM (identifierType model draft.settings.idProjection))
  let field ←
    match typed with
    | [(identifier, type)] => pure (Filter.one identifier type)
    | _ => do
        let fields := typed.map fun (identifier, type) =>
          { name := identifier, type := (TypeRef.named type).required : InputField }
        let compound ← Drafting.withCatalog
          (·.compoundInput (compoundInputName model.name identifiers) fields)
        pure (Filter.one (compoundKeyName identifiers) compound.name)
  let _ ← Drafting.withCatalog (·.define (.ofFields (whereUniqueInputName model.name) [field]))

end GraphBinding.Projection
