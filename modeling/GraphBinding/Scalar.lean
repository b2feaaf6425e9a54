namespace GraphBinding

/-! The native scalar types of a data model. -/

inductive Scalar where
  | string
  | int
  | boolean
  | float
  | bigInt
  | dateTime
  | json
  | bytes
  | decimal
deriving DecidableEq, Repr

namespace Scalar

def all : List Scalar :=
  [.string, .int, .boolean, .float, .bigInt, .dateTime, .json, .bytes, .decimal]

def name : Scalar → String
  | .string => "String"
  | .int => "Int"
  | .boolean => "Boolean"
  | .float => "Float"
  | .bigInt => "BigInt"
  | .dateTime => "DateTime"
  | .json => "Json"
  | .bytes => "Bytes"
  | .decimal => "Decimal"

def ofName? (name : String) : Option Scalar := all.find? (·.name = name)

theorem mem_all (scalar : Scalar) : scalar ∈ all := by cases scalar <;> decide

theorem ofName?_name (scalar : Scalar) : ofName? scalar.name = some scalar := by
  cases scalar <;> decide

theorem name_of_ofName? {name : String} {scalar : Scalar} (known : ofName? name = some scalar) :
    scalar.name = name := by
  simpa using List.find?_some known

/-- Scalars that GraphQL does not have by itself, so that a schema must declare them. -/
def isCustom (name : String) : Bool :=
  name ∈ ["BigInt", "DateTime", "Json", "Bytes", "Decimal"]

end Scalar

end GraphBinding
