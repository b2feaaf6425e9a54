import GraphBinding.Json.Number
import GraphBinding.Json.Syntax
import GraphBinding.Text.Quoted

namespace GraphBinding

/-! Why a JSON value is not what was asked for, and why an input could not be read. -/

/-- A value as far as a diagnostic shows it. -/
inductive Found where
  | null
  | boolean (value : Bool)
  | integer (value : Int)
  | real (value : Binary64)
  | string (text : String)
  | sequence
  | map
deriving DecidableEq, Repr

namespace Found

def ofJson : Json → Found
  | .null => .null
  | .boolean value => .boolean value
  | .integer value => .integer value
  | .real value => .real value
  | .string text => .string text
  | .array _ => .sequence
  | .object _ => .map

def text : Found → String
  | .null => "null"
  | .boolean true => "boolean `true`"
  | .boolean false => "boolean `false`"
  | .integer value => "integer `" ++ String.ofList (Json.integerChars value) ++ "`"
  | .real value => "floating point `" ++ String.ofList (Json.realChars value) ++ "`"
  | .string text => "string " ++ Text.quoted text
  | .sequence => "sequence"
  | .map => "map"

end Found

inductive DecodeError where
  | wrongType (found : Found) (expected : String)
  | unknownVariant (name : String) (options : List String)
  /-- A variant written as an object that does not have exactly one member. -/
  | notSingleMember
  | missingField (name : String)
  | repeatedField (name : String)
  /-- An array ends before an element that has no default. -/
  | tooFewElements (given : Nat) (shape : String) (size : Nat)
  | tooManyElements (given : Nat)
  /-- The same where the array was set aside before it was decoded. -/
  | tooManySetAside (given size : Nat)
  | noEnumMember
deriving DecidableEq, Repr

namespace DecodeError

def quotedName (name : String) : String := "`" ++ name ++ "`"

/-- One option, two with `or`, or a list of more. -/
def optionList : List String → String
  | [] => "there are no variants"
  | [first] => quotedName first
  | [first, second] => quotedName first ++ " or " ++ quotedName second
  | options => "one of " ++ ", ".intercalate (options.map quotedName)

def message : DecodeError → String
  | .wrongType found expected => "invalid type: " ++ found.text ++ ", expected " ++ expected
  | .unknownVariant name options =>
      "unknown variant " ++ quotedName name ++ ", expected " ++ optionList options
  | .notSingleMember => "invalid value: map, expected map with a single key"
  | .missingField name => "missing field " ++ quotedName name
  | .repeatedField name => "duplicate field " ++ quotedName name
  | .tooFewElements given shape size =>
      "invalid length " ++ toString given ++ ", expected struct " ++ shape ++ " with " ++
        toString size ++ " elements"
  | .tooManyElements given =>
      "invalid length " ++ toString given ++ ", expected fewer elements in array"
  | .tooManySetAside given size =>
      "invalid length " ++ toString given ++ ", expected " ++ toString size ++
        (if size = 1 then " element" else " elements") ++ " in sequence"
  | .noEnumMember => "data did not match any variant of untagged enum EnumValueRepr"

end DecodeError

inductive ReadError where
  | unreadable (path reason : String)
  | malformed (reason : Json.SyntaxError)
  | mistyped (reason : DecodeError)
deriving DecidableEq, Repr

def ReadError.message : ReadError → String
  | .unreadable path reason => "failed to read " ++ path ++ ": " ++ reason
  | .malformed reason => reason.message
  | .mistyped reason => reason.message

end GraphBinding
