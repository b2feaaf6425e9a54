import GraphBinding.Document
import GraphBinding.GenerationError
import GraphBinding.Scalar
import GraphBinding.Settings
import GraphBinding.TypeRef

namespace GraphBinding

/-! The GraphQL type of a document field. -/

/-- The GraphQL scalar for identifiers. -/
def idType : String := "ID"

/-- A scalar keeps its name, except that identifiers may become `ID`. -/
def Scalar.graphName (scalar : Scalar) (isId : Bool) (projection : IdProjection) : String :=
  match scalar, isId, projection with
  | .string, true, _ => idType
  | .int, true, .id => idType
  | _, _, _ => scalar.name

namespace Field

def scalar (field : Field) (model : Model) : Except GenerationError Scalar :=
  match Scalar.ofName? field.type with
  | some scalar => .ok scalar
  | none => .error (.unsupportedScalar model.name field.name field.type)

/-- The named type of a field: the mapped scalar, or the document's own name. -/
def graphName (field : Field) (model : Model) (projection : IdProjection) :
    Except GenerationError String :=
  match field.kind with
  | .scalar => (field.scalar model).map (·.graphName field.isId projection)
  | _ => .ok field.type

/-- List items are never null. -/
def wrap (name : String) (isList isRequired : Bool) : TypeRef :=
  let type := if isList then TypeRef.listOf name else .named name
  if isRequired then type.required else type

/-- The type of the field in an object type. -/
def typeRef (field : Field) (model : Model) (projection : IdProjection) :
    Except GenerationError TypeRef :=
  (field.graphName model projection).map fun name => wrap name field.isList field.isRequired

end Field

end GraphBinding
