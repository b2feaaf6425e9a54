import GraphBinding.FieldType
import GraphBinding.InputType

namespace GraphBinding

/-! The catalog of input and enum types that the `where` arguments of a schema need.

Every type is built at most once: a request for a name that is already in the catalog is
answered with the type found there, and changes nothing.
-/

/-- Input and enum types under their names, in the order in which they were built. -/
structure Catalog where
  inputs : Table InputType := Table.empty
  enums : Table EnumType := Table.empty
deriving DecidableEq

def queryModeName : String := "QueryMode"

def nestedStringFilterName : String := "NestedStringFilter"

/-- Integer identifiers shown as `ID` have a filter of their own. -/
def scalarFilterName (graphName : String) (native : Scalar) : String :=
  if graphName = idType ∧ native = .int then "IntIDFilter" else graphName ++ "Filter"

def enumFilterName (enumName : String) : String := enumName ++ "Filter"

def listFilterName (model : String) : String := model ++ "ListFilter"

def scalarListFilterName (element : String) : String := element ++ "ScalarListFilter"

def whereInputName (model : String) : String := model ++ "WhereInput"

def whereUniqueInputName (model : String) : String := model ++ "WhereUniqueInput"

namespace Filter

def one (name type : String) : InputField := { name, type := .named type }

def many (name type : String) : InputField := { name, type := .listOf type }

def equality (type : String) : List InputField := [one "equals" type]

def membership (type : String) : List InputField := [many "in" type, many "notIn" type]

def ordering (type : String) : List InputField :=
  [one "lt" type, one "lte" type, one "gt" type, one "gte" type]

def substrings (type : String) : List InputField :=
  [one "contains" type, one "startsWith" type, one "endsWith" type]

def comparable (type : String) : List InputField :=
  equality type ++ membership type ++ ordering type

def text (type : String) : List InputField := equality type ++ membership type ++ substrings type

def json : List InputField :=
  [one "equals" "Json", many "path" "String", one "string_starts_with" "String",
    one "string_ends_with" "String", one "array_contains" "Json",
    one "array_starts_with" "Json", one "array_ends_with" "Json"]

/-- The operators for values of a scalar type other than `String`; other names have none. -/
def scalarOperators? (graphName : String) (native : Scalar) : Option (List InputField) :=
  match graphName with
  | "ID" => some (if native = .string then text idType else comparable idType)
  | "Int" | "Float" | "BigInt" | "DateTime" | "Decimal" => some (comparable graphName)
  | "Boolean" => some (equality "Boolean" ++ ordering "Boolean")
  | "Bytes" => some (equality "Bytes" ++ membership "Bytes")
  | "Json" => some json
  | _ => none

/-- A filter that can be negated by itself. -/
def negatable (name : String) (operators : List InputField) : InputType :=
  .ofFields name (operators ++ [one "not" name])

def ofEnum (enumName : String) : InputType :=
  negatable (enumFilterName enumName) (equality enumName ++ membership enumName)

def ofRelationList (model : String) : InputType :=
  let condition := whereInputName model
  .ofFields (listFilterName model)
    [one "every" condition, one "some" condition, one "none" condition]

def ofScalarList (element : String) : InputType :=
  .ofFields (scalarListFilterName element)
    [many "equals" element, one "has" element, many "hasEvery" element, many "hasSome" element,
      one "isEmpty" "Boolean"]

def nestedString : InputType := .ofFields nestedStringFilterName (text "String")

end Filter

namespace Catalog

def empty : Catalog := {}

def size (catalog : Catalog) : Nat := catalog.inputs.size + catalog.enums.size

/-- The input type with a name, built now if it is not in the catalog yet.  Building may
itself ask for types. -/
def obtain (catalog : Catalog) (name : String) (build : Catalog → InputType × Catalog) :
    InputType × Catalog :=
  match catalog.inputs.find? name with
  | some type => (type, catalog)
  | none =>
      let (type, catalog) := build catalog
      (type, { catalog with inputs := catalog.inputs.insert name type })

/-- Adds a finished type, unless its name is taken; answers with the type in the catalog. -/
def define (catalog : Catalog) (type : InputType) : InputType × Catalog :=
  catalog.obtain type.name fun catalog => (type, catalog)

/-- Puts another definition in the place of one in the catalog. -/
def redefine (catalog : Catalog) (name : String) (type : InputType) : Catalog :=
  { catalog with inputs := catalog.inputs.insert name type }

/-- The enum of the ways to compare texts. -/
def queryMode (catalog : Catalog) : EnumType × Catalog :=
  match catalog.enums.find? queryModeName with
  | some type => (type, catalog)
  | none =>
      let type : EnumType := { name := queryModeName, members := ["default", "insensitive"] }
      (type, { catalog with enums := catalog.enums.insert queryModeName type })

/-- Text operators without a mode and without negation, so that negations do not nest. -/
def nestedStringFilter (catalog : Catalog) : InputType × Catalog :=
  catalog.obtain nestedStringFilterName fun catalog => (Filter.nestedString, catalog)

/-- The parts that the filter for texts refers to are built before the filter itself. -/
def buildStringFilter (name : String) (catalog : Catalog) : InputType × Catalog :=
  let (mode, catalog) := catalog.queryMode
  let (nested, catalog) := catalog.nestedStringFilter
  let references := [Filter.one "mode" mode.name, Filter.one "not" nested.name]
  (.ofFields name (Filter.text "String" ++ references), catalog)

/-- The filter of a scalar field shown as `graphName`.  The native type decides how an
identifier is compared. -/
def scalarFilter (catalog : Catalog) (graphName : String) (native : Scalar) :
    Option InputType × Catalog :=
  let name := scalarFilterName graphName native
  if graphName = "String" then
    let (type, catalog) := catalog.obtain name (buildStringFilter name)
    (some type, catalog)
  else
    match Filter.scalarOperators? graphName native with
    | some operators =>
        let (type, catalog) :=
          catalog.obtain name fun catalog => (Filter.negatable name operators, catalog)
        (some type, catalog)
    | none => (none, catalog)

def enumFilter (catalog : Catalog) (enumName : String) : InputType × Catalog :=
  catalog.obtain (enumFilterName enumName) fun catalog => (Filter.ofEnum enumName, catalog)

def relationListFilter (catalog : Catalog) (model : String) : InputType × Catalog :=
  catalog.obtain (listFilterName model) fun catalog => (Filter.ofRelationList model, catalog)

def scalarListFilter (catalog : Catalog) (element : String) : InputType × Catalog :=
  catalog.obtain (scalarListFilterName element) fun catalog =>
    (Filter.ofScalarList element, catalog)

/-- The input that addresses a record by several identifiers. -/
def compoundInput (catalog : Catalog) (name : String) (fields : List InputField) :
    InputType × Catalog :=
  catalog.obtain name fun catalog => (.ofFields name fields, catalog)

end Catalog

end GraphBinding
