namespace GraphBinding

/-! Data-model documents: models with their fields and keys, and enums, in declaration
order. -/

inductive FieldKind where
  | scalar
  | enumeration
  | relation
  /-- A native type that the data client does not map. -/
  | unsupported
deriving DecidableEq, Repr

structure Field where
  name : String
  kind : FieldKind
  /-- The native scalar, or the name of the enum or model referred to. -/
  type : String
  isList : Bool := false
  isRequired : Bool := false
  isId : Bool := false
  isUnique : Bool := false
  hasDefaultValue : Bool := false
  isReadOnly : Bool := false
  isUpdatedAt : Bool := false
  documentation : Option String := none
  relationName : Option String := none
  relationFromFields : List String := []
  relationToFields : List String := []
deriving DecidableEq

def Field.isRelation (field : Field) : Bool := field.kind = .relation

/-- Fields that identify a record together. -/
structure KeyGroup where
  name : Option String := none
  fields : List String := []
deriving DecidableEq

structure Model where
  name : String
  dbName : Option String := none
  fields : List Field := []
  documentation : Option String := none
  primaryKey : Option KeyGroup := none
  idFields : List String := []
  uniqueFields : List (List String) := []
  uniqueIndexes : List KeyGroup := []
deriving DecidableEq

def Model.field? (model : Model) (name : String) : Option Field :=
  model.fields.find? (·.name = name)

structure EnumValue where
  name : String
  dbName : Option String := none
deriving DecidableEq

structure Enum where
  name : String
  values : List EnumValue := []
  documentation : Option String := none
deriving DecidableEq

structure Document where
  models : List Model := []
  enums : List Enum := []
deriving DecidableEq

namespace Document

def model? (document : Document) (name : String) : Option Model :=
  document.models.find? (·.name = name)

def enum? (document : Document) (name : String) : Option Enum :=
  document.enums.find? (·.name = name)

end Document

end GraphBinding
