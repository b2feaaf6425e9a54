import GraphBinding.Decoder
import GraphBinding.Document

namespace GraphBinding

/-! Documents out of JSON values. -/

def FieldKind.spellings : List (String × FieldKind) :=
  [("scalar", .scalar), ("enum", .enumeration), ("object", .relation),
    ("unsupported", .unsupported)]

namespace Decoder

def strings : Decoder (List String) := list string

def optionalString : Decoder (Option String) := nullable string

end Decoder

open Decoder Record

def Field.record : Record Field :=
  Field.mk <$> required "name" string
    <*> required "kind" (variant .tree FieldKind.spellings)
    <*> required "type" string
    <*> optional "isList" false boolean
    <*> optional "isRequired" false boolean
    <*> optional "isId" false boolean
    <*> optional "isUnique" false boolean
    <*> optional "hasDefaultValue" false boolean
    <*> optional "isReadOnly" false boolean
    <*> optional "isUpdatedAt" false boolean
    <*> optional "documentation" none optionalString
    <*> optional "relationName" none optionalString
    <*> optional "relationFromFields" [] strings
    <*> optional "relationToFields" [] strings

def Field.decode : Decoder Field := Field.record.decoder .tree "Field"

def KeyGroup.record : Record KeyGroup :=
  KeyGroup.mk <$> optional "name" none optionalString <*> optional "fields" [] strings

def Model.record : Record Model :=
  Model.mk <$> required "name" string
    <*> optional "dbName" none optionalString
    <*> optional "fields" [] (list Field.decode)
    <*> optional "documentation" none optionalString
    <*> optional "primaryKey" none (nullable (KeyGroup.record.decoder .tree "PrimaryKey"))
    <*> optional "idFields" [] strings
    <*> optional "uniqueFields" [] (list strings)
    <*> optional "uniqueIndexes" [] (list (KeyGroup.record.decoder .tree "UniqueIndex"))

def Model.decode : Decoder Model := Model.record.decoder .tree "Model"

def EnumValue.record : Record EnumValue :=
  EnumValue.mk <$> required "name" string <*> optional "dbName" none optionalString

/-- A bare name, or an object.  Whatever else is wrong with it is not told. -/
def EnumValue.decode : Decoder EnumValue
  | .string name => .ok { name }
  | .object members =>
      match EnumValue.record.ofMembers members with
      | .ok value => .ok value
      | .error _ => .error .noEnumMember
  | _ => .error .noEnumMember

def Enum.record : Record Enum :=
  Enum.mk <$> required "name" string
    <*> optional "values" [] (list EnumValue.decode)
    <*> optional "documentation" none optionalString

def Enum.decode : Decoder Enum := Enum.record.decoder .tree "Enum"

def Document.record : Record Document :=
  Document.mk <$> optional "models" [] (list Model.decode)
    <*> optional "enums" [] (list Enum.decode)

/-- A document without an envelope. -/
def Document.decodeBare : Decoder Document := Document.record.decoder .tree "Document"

/-- A larger object around a document. -/
structure Envelope where
  datamodel : Document

def Envelope.record : Record Envelope :=
  Envelope.mk <$> required "datamodel" Document.decodeBare

/-- Any object with a member `datamodel` is an envelope, whatever that member is. -/
def Document.decode : Decoder Document := fun json =>
  match json.get? "datamodel" with
  | some _ => (Envelope.record.build json.get?).map Envelope.datamodel
  | none => Document.decodeBare json

end GraphBinding
