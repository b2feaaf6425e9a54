import GraphBinding.Projection.Objects
import GraphBinding.Text.Words

namespace GraphBinding.Projection

/-! The query type, with two fields for every model: one for a single record, one for a
page of records. -/

def findUniqueName (model : String) : String := Text.lowerCamel model

def findManyName (model : String) : String := Text.lowerCamel model ++ "s"

def findUniqueField (model : String) : OutputField where
  name := findUniqueName model
  type := .named model
  arguments := .ofEntries [("where", (TypeRef.named (whereUniqueInputName model)).required)]
  source := some (.findUnique model)

def findManyField (model : String) : OutputField where
  name := findManyName model
  type := (TypeRef.named (listResultName model)).required
  arguments := pagingArguments model
  source := some (.findMany model)

/-- The model to which a field of the query type belongs. -/
def ownerOf (field : OutputField) : String := (field.source.map FieldSource.model).getD ""

/-- The first of the names that the query type already uses, with its owner. -/
def takenName? (query : ObjectType) (names : List String) : Option (String × String) :=
  names.findSome? fun name => (query.field? name).map fun field => (name, ownerOf field)

def addAccessors (query : ObjectType) (model : String) : Except GenerationError ObjectType :=
  match takenName? query [findUniqueName model, findManyName model] with
  | some (name, owner) => .error (.accessorTaken name model owner)
  | none => .ok (query.addFields [findUniqueField model, findManyField model])

def queryObject (models : List String) : Except GenerationError ObjectType :=
  models.foldlM addAccessors (ObjectType.new .query queryType none)

end GraphBinding.Projection
