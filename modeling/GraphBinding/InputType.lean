import GraphBinding.Table
import GraphBinding.Text.Lines
import GraphBinding.TypeRef

namespace GraphBinding

/-! Input object types and enum types of the generated schema, and the pieces of schema language
that all types are written with. -/

namespace Sdl

def quotes : String := "\"\"\""

/-- The lines of a description at an indentation. -/
def description (indent : String) : Option String → List String
  | none => []
  | some text => (indent ++ quotes) :: (Text.lines text).map (indent ++ ·) ++ [indent ++ quotes]

/-- A described declaration with its body in braces, without a final line end. -/
def declaration (described : Option String) (heading : String) (body : List String) : String :=
  "\n".intercalate (description "" described ++ (heading ++ " \x7b") :: body ++ ["\x7d"])

end Sdl

structure InputField where
  /-- The name under which requests give the field, which an alias may have replaced. -/
  name : String
  type : TypeRef
  description : Option String := none
deriving DecidableEq

structure InputType where
  name : String
  description : Option String := none
  /-- Keyed by the exposed names. -/
  fields : Table InputField
deriving DecidableEq

namespace InputType

def ofFields (name : String) (fields : List InputField) : InputType :=
  { name, fields := Table.ofValues InputField.name fields }

def sdl (type : InputType) : String :=
  Sdl.declaration type.description ("input " ++ type.name)
    (type.fields.values.flatMap fun field =>
      Sdl.description "  " field.description ++ ["  " ++ field.name ++ ": " ++ field.type.sdl])

end InputType

structure EnumType where
  name : String
  description : Option String := none
  members : List String
deriving DecidableEq

namespace EnumType

def sdl (type : EnumType) : String :=
  Sdl.declaration type.description ("enum " ++ type.name) (type.members.map ("  " ++ ·))

end EnumType

end GraphBinding
