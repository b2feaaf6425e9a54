import GraphBinding.Catalog
import GraphBinding.ObjectType

namespace GraphBinding.Projection

/-! The object and enum types made of a document. -/

def listResultName (model : String) : String := model ++ "List"

/-- Documentation, if it becomes a description. -/
def descriptionOf (settings : Settings) (documentation : Option String) : Option String :=
  if settings.docPropagation.descriptions then documentation else none

def documentedEnum (settings : Settings) (enum : Enum) : DocumentedEnum where
  type :=
    { name := enum.name
      description := descriptionOf settings enum.documentation
      members := enum.values.map EnumValue.name }
  documentation := enum.documentation

/-- The arguments of a field that answers with a page of a model's records. -/
def pagingArguments (model : String) : Table TypeRef :=
  .ofEntries
    [("where", .named (whereInputName model)), ("take", .named "Int"), ("skip", .named "Int")]

/-- A page stands for a to-many relation; every other field keeps its own type. -/
def outputField (settings : Settings) (model : Model) (field : Field) :
    Except GenerationError OutputField := do
  let documented : OutputField :=
    { name := field.name
      type := (TypeRef.named (listResultName field.type)).required
      description := descriptionOf settings field.documentation
      documentation := field.documentation }
  if field.isRelation ∧ field.isList then
    return { documented with
      arguments := pagingArguments field.type
      source := some (.relationMany model.name field.name field.type) }
  else
    let type ← field.typeRef model settings.idProjection
    return { documented with
      type
      source := if field.isRelation then some (.relationOne model.name field.name) else none }

def modelObject (settings : Settings) (model : Model) : Except GenerationError ObjectType := do
  let fields ← model.fields.mapM (outputField settings model)
  let object := ObjectType.new .model model.name (descriptionOf settings model.documentation)
  return { object with documentation := model.documentation }.addFields fields

/-- The page of a model's records. -/
def listResult (model : String) : ObjectType :=
  (ObjectType.new .listResult (listResultName model) none).addFields
    [{ name := "list", type := Field.wrap model true true },
      { name := "total", type := (TypeRef.named "Int").required },
      { name := "hasMore", type := (TypeRef.named "Boolean").required }]

end GraphBinding.Projection
