import GraphBinding.Json.Printer
import GraphBinding.Schema
import GraphBinding.Settings.Encoder

namespace GraphBinding

/-! The script module, in two flavors that differ only in how they import and export, and the lines
of source that generated modules are made of. -/

namespace Source

/-- An empty line is never indented. -/
def indentLine (line : String) : String := if line.isEmpty then line else "  " ++ line

/-- Lines between an opening and a closing line, one level deeper. -/
def block (opening : String) (body : List String) (closing : String) : List String :=
  opening :: body.map indentLine ++ [closing]

/-- The text of the lines, each of them ended. -/
def text (lines : List String) : String := String.join (lines.map (· ++ "\n"))

/-- A text as a literal of the generated language. -/
def literal (text : String) : String := Json.quoted text

def optionalLiteral : Option String → String
  | none => "undefined"
  | some text => literal text

end Source

inductive Flavor where
  /-- `import` and `export` -/
  | esm
  /-- `require` and `exports` -/
  | cjs
deriving DecidableEq, Repr

namespace Module

def banner : String := "// Generated by nexus-prisma. Do not edit."

end Module

namespace ScriptModule

open Source

def helperPackage : String := "nexus-prisma/runtime"

/-- The lines before the handle of the schema. -/
def header : Flavor → List String
  | .esm => [Module.banner, "import * as $runtime from " ++ literal helperPackage, ""]
  | .cjs =>
      [Module.banner, "\"use strict\"", "",
        "const $runtime = require(" ++ literal helperPackage ++ ")", ""]

/-- The left side of an exported binding. -/
def binding (flavor : Flavor) (name : String) : String :=
  match flavor with
  | .esm => "export const " ++ name ++ " ="
  | .cjs => "exports." ++ name ++ " ="

def typeExpression : TypeRef → String
  | .named name => literal name
  | .list item => "$runtime.list(" ++ typeExpression item ++ ")"
  | .nonNull nullable => "$runtime.nonNull(" ++ typeExpression nullable ++ ")"

@[simp] theorem typeExpression_named (name : String) :
    typeExpression (.named name) = literal name := rfl

@[simp] theorem typeExpression_list (item : TypeRef) :
    typeExpression (.list item) = "$runtime.list(" ++ typeExpression item ++ ")" := rfl

@[simp] theorem typeExpression_nonNull (nullable : TypeRef) :
    typeExpression (.nonNull nullable) =
      "$runtime.nonNull(" ++ typeExpression nullable ++ ")" := rfl

def callOnSchema (function : String) (arguments : List String) : String :=
  "$schema." ++ function ++ "(" ++ ", ".intercalate (arguments.map literal) ++ ")"

def sourceExpression : Option FieldSource → String
  | none => "undefined"
  | some (.relationOne model field) => callOnSchema "relationUnique" [model, field]
  | some (.relationMany model field target) => callOnSchema "relationList" [model, field, target]
  | some (.findUnique model) => callOnSchema "findUnique" [model]
  | some (.findMany model) => callOnSchema "findMany" [model]

/-- A member of an object literal. -/
def property (key value : String) : String := key ++ ": " ++ value ++ ","

def propertyBlock (key : String) (body : List String) : List String :=
  block (key ++ ": \x7b") body "\x7d,"

def argumentLines (arguments : Table TypeRef) : List String :=
  if arguments.isEmpty then []
  else
    propertyBlock "args"
      (arguments.entries.map fun (name, type) => property name (typeExpression type))

def fieldLines (field : OutputField) : List String :=
  propertyBlock field.name
    ([property "name" (literal field.name),
      property "type" (typeExpression field.type),
      property "description" (optionalLiteral field.description)] ++
      argumentLines field.arguments ++ [property "resolve" (sourceExpression field.source)])

def entryLines : String × ObjectEntry → List String
  | (key, .name text) => [property key (literal text)]
  | (key, .description text) => [property key (literal text)]
  | (_, .field field) => fieldLines field

def exported (flavor : Flavor) (name : String) (body : List String) : List String :=
  block (binding flavor name ++ " \x7b") body "\x7d"

def objectLines (flavor : Flavor) (type : ObjectType) : List String :=
  exported flavor type.name (type.entries.entries.flatMap entryLines)

def enumLines (flavor : Flavor) (type : EnumType) : List String :=
  exported flavor type.name
    [property "name" (literal type.name),
      property "description" (optionalLiteral type.description),
      property "members" ("[" ++ ", ".intercalate (type.members.map literal) ++ "]")]

def inputLines (flavor : Flavor) (type : InputType) : List String :=
  exported flavor type.name
    ([property "name" (literal type.name),
      property "description" (optionalLiteral type.description)] ++
      propertyBlock "definition"
        (type.fields.values.map fun field => property field.name (typeExpression field.type)))

/-- What resolvers in the module are created from. -/
def handle (schema : Schema) : Json :=
  .object
    [("settings", schema.settings.runtime.toJson),
      ("identifiers", .object (schema.identifiers.entries.map fun (model, fields) =>
        (model, Json.strings fields))),
      ("aliases", nestedTableJson schema.aliases.entries)]

/-- The exported bindings of all types, each after an empty line. -/
def typeLines (schema : Schema) (flavor : Flavor) : List String :=
  (schema.graph.enums.values.map (enumLines flavor ·.type) ++
    schema.catalog.enums.values.map (enumLines flavor) ++
    schema.graph.objects.map (objectLines flavor) ++
    schema.catalog.inputs.values.map (inputLines flavor)).flatMap ("" :: ·)

end ScriptModule

open ScriptModule in
/-- The lines of the script module. -/
def Schema.scriptModule (schema : Schema) (flavor : Flavor) : List String :=
  header flavor ++
    ["const $schema = $runtime.createSchema(" ++ (handle schema).text ++ ")",
      "",
      binding flavor "$settings" ++ " $runtime.changeSettings"] ++
    typeLines schema flavor

end GraphBinding
