import GraphBinding.InputType

namespace GraphBinding

/-! Object types of the generated schema, and the graph they form with the enums. -/

/-- Where a field's value comes from at request time. -/
inductive FieldSource where
  /-- One related record, read through the parent record. -/
  | relationOne (model field : String)
  /-- A page of related records, read through the parent record. -/
  | relationMany (model field target : String)
  /-- One record of a model. -/
  | findUnique (model : String)
  /-- A page of records of a model. -/
  | findMany (model : String)
deriving DecidableEq, Repr

/-- The model that is read from. -/
def FieldSource.model : FieldSource → String
  | .relationOne model _ => model
  | .relationMany model _ _ => model
  | .findUnique model => model
  | .findMany model => model

structure OutputField where
  name : String
  type : TypeRef
  description : Option String := none
  /-- The documentation in the document, for comments. -/
  documentation : Option String := none
  arguments : Table TypeRef := Table.empty
  /-- A field without a source is a property of its parent. -/
  source : Option FieldSource := none
deriving DecidableEq

inductive ObjectEntry where
  | name (text : String)
  | description (text : String)
  | field (definition : OutputField)
deriving DecidableEq

namespace ObjectEntry

def name? : ObjectEntry → Option String
  | .name text => some text
  | _ => none

def description? : ObjectEntry → Option String
  | .description text => some text
  | _ => none

def field? : ObjectEntry → Option OutputField
  | .field definition => some definition
  | _ => none

end ObjectEntry

inductive ObjectKind where
  | model
  /-- A page of records. -/
  | listResult
  | query
deriving DecidableEq, Repr

def nameKey : String := "$name"

def descriptionKey : String := "$description"

def queryType : String := "Query"

/-- An object type as one table: its name and its description, if it has one, come before
its fields. -/
structure ObjectType where
  kind : ObjectKind
  documentation : Option String := none
  entries : Table ObjectEntry
deriving DecidableEq

namespace ObjectType

/-- An object type without fields. -/
def new (kind : ObjectKind) (name : String) (description : Option String) : ObjectType where
  kind := kind
  entries :=
    match description with
    | none => Table.empty.insert nameKey (.name name)
    | some text =>
        (Table.empty.insert nameKey (.name name)).insert descriptionKey (.description text)

def addField (type : ObjectType) (field : OutputField) : ObjectType :=
  { type with entries := type.entries.insert field.name (.field field) }

def addFields (type : ObjectType) (fields : List OutputField) : ObjectType :=
  fields.foldl addField type

def name (type : ObjectType) : String := (type.entries.values.findSome? ObjectEntry.name?).getD ""

def description (type : ObjectType) : Option String :=
  type.entries.values.findSome? ObjectEntry.description?

def fields (type : ObjectType) : List OutputField :=
  type.entries.values.filterMap ObjectEntry.field?

def field? (type : ObjectType) (name : String) : Option OutputField :=
  (type.entries.find? name).bind ObjectEntry.field?

def argumentsSdl (arguments : Table TypeRef) : String :=
  if arguments.isEmpty then ""
  else
    let shown := arguments.entries.map fun (name, type) => name ++ ": " ++ type.sdl
    "(" ++ ", ".intercalate shown ++ ")"

def sdl (type : ObjectType) : String :=
  Sdl.declaration type.description ("type " ++ type.name)
    (type.fields.flatMap fun field =>
      Sdl.description "  " field.description ++
        ["  " ++ field.name ++ argumentsSdl field.arguments ++ ": " ++ field.type.sdl])

end ObjectType

/-- An enum of the document as a type of the schema. -/
structure DocumentedEnum where
  type : EnumType
  documentation : Option String := none
deriving DecidableEq

/-- All that was made of one document, besides the input types. -/
structure TypeGraph where
  /-- By model name. -/
  models : Table ObjectType
  /-- By type name. -/
  listResults : Table ObjectType
  enums : Table DocumentedEnum
  query : ObjectType
deriving DecidableEq

namespace TypeGraph

def object? (graph : TypeGraph) (name : String) : Option ObjectType :=
  if name = queryType then some graph.query
  else (graph.models.find? name).or (graph.listResults.find? name)

/-- Models, then their pages, then the query type. -/
def objects (graph : TypeGraph) : List ObjectType :=
  graph.models.values ++ graph.listResults.values ++ [graph.query]

end TypeGraph

end GraphBinding
