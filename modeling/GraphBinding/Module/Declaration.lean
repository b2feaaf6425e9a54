import GraphBinding.Module.Script
import GraphBinding.Text.Lines

namespace GraphBinding

/-! The declaration module: a type for every binding that the script modules export. -/

namespace DeclarationModule

open Source

/-- The shape of the settings that `$settings` accepts. -/
def settingsLines : List String :=
  block "export interface Settings \x7b"
    (["prismaClientContextField?: string", "prismaClientImportId?: string"] ++
      block "checks?: \x7b"
        (block "PrismaClientOnContext?: \x7b"
          ["enabled?: boolean",
            "strategy?: 'strict' | 'structural' | 'strictWithFallback' | 'instanceOf' | 'duckType'"]
          "\x7d")
        "\x7d")
    "\x7d" ++
    ["", "export declare const $settings: (settings: Settings) => void"]

def typeDeclaration : TypeRef → String
  | .named name => "'" ++ name ++ "'"
  | .list item => "NexusCore.NexusListDef<" ++ typeDeclaration item ++ ">"
  | .nonNull nullable => "NexusCore.NexusNonNullDef<" ++ typeDeclaration nullable ++ ">"

@[simp] theorem typeDeclaration_named (name : String) :
    typeDeclaration (.named name) = "'" ++ name ++ "'" := rfl

@[simp] theorem typeDeclaration_list (item : TypeRef) :
    typeDeclaration (.list item) = "NexusCore.NexusListDef<" ++ typeDeclaration item ++ ">" := rfl

@[simp] theorem typeDeclaration_nonNull (nullable : TypeRef) :
    typeDeclaration (.nonNull nullable) =
      "NexusCore.NexusNonNullDef<" ++ typeDeclaration nullable ++ ">" := rfl

/-- The type of a field, or a readable message if the type it names was never defined. -/
def guardedType (type : TypeRef) : List String :=
  let name := type.baseName
  ["type: '" ++ name ++ "' extends NexusCore.GetGen<'allNamedTypes', string>",
    "    ? " ++ typeDeclaration type,
    "    : 'Warning/Error: The type \\'" ++ name ++ "\\' is not among the union of " ++
      "GetGen<\\'allNamedTypes\\', string>. This means that either: 1) You need to run nexus " ++
      "typegen reflection. 2) You need to add the type \\'" ++ name ++ "\\' to your GraphQL API.'"]

/-- Breaks up every end of a comment. -/
def escapeCommentEnd : List Char → List Char
  | '*' :: '/' :: rest => '*' :: '\\' :: '/' :: escapeCommentEnd rest
  | c :: rest => c :: escapeCommentEnd rest
  | [] => []

def commentLine (line : String) : String :=
  if line.isEmpty then " *" else " * " ++ String.ofList (escapeCommentEnd line.toList)

/-- The lines as a comment; no lines make no comment. -/
def comment (lines : List String) : List String :=
  if lines.isEmpty then [] else "/**" :: lines.map commentLine ++ [" */"]

/-- What the comment of an item says: its documentation, or a guide to writing one. -/
def commentText (settings : Settings) (documentation : Option String) (guide : List String) :
    List String :=
  if ¬ settings.docPropagation.comments then []
  else
    match documentation, settings.missingDocComment with
    | some text, _ => Text.lines text
    | none, .guide => guide
    | none, .none => []

def modelGuide (model : String) : List String :=
  ["Missing documentation for model `" ++ model ++ "`.",
    "",
    "Add a triple-slash comment above the model in your Prisma schema",
    "and it will appear here. For example:",
    "",
    "```prisma",
    "/// Lorem ipsum dolor sit amet...",
    "model " ++ model ++ " \x7b",
    "  foo  String",
    "\x7d",
    "```"]

def fieldGuide (model field : String) : List String :=
  ["Missing documentation for field `" ++ model ++ "." ++ field ++ "`.",
    "",
    "Add a triple-slash comment above the field in your Prisma schema",
    "and it will appear here. For example:",
    "",
    "```prisma",
    "model " ++ model ++ " \x7b",
    "  /// Lorem ipsum dolor sit amet.",
    "  " ++ field ++ "  String",
    "\x7d",
    "```"]

def enumGuide (name : String) : List String :=
  ["Missing documentation for enum `" ++ name ++ "`.",
    "",
    "Add a triple-slash comment above the enum in your Prisma schema",
    "and it will appear here."]

def property (key type : String) : String := key ++ ": " ++ type

def propertyBlock (key : String) (body : List String) : List String :=
  block (key ++ ": \x7b") body "\x7d"

/-- An interface, and the binding that has it. -/
def declared (name : String) (body : List String) : List String :=
  block ("export interface " ++ name ++ " \x7b") body "\x7d" ++
    ["", "export declare const " ++ name ++ ": " ++ name]

def argumentLines (arguments : Table TypeRef) : List String :=
  if arguments.isEmpty then []
  else
    propertyBlock "args"
      (arguments.entries.map fun (name, type) => property name (typeDeclaration type))

def resolverType (parent : String) (field : OutputField) : String :=
  match field.source with
  | some _ => "NexusCore.FieldResolver<'" ++ parent ++ "', '" ++ field.name ++ "'>"
  | none => "undefined"

def fieldLines (parent : String) (field : OutputField) : List String :=
  propertyBlock field.name
    (property "name" (literal field.name) :: guardedType field.type ++
      [property "description" (optionalLiteral field.description)] ++
      argumentLines field.arguments ++ [property "resolve" (resolverType parent field)])

/-- Only models and their fields have comments. -/
def fieldComment (settings : Settings) (type : ObjectType) (field : OutputField) : List String :=
  if type.kind = .model then
    comment (commentText settings field.documentation (fieldGuide type.name field.name))
  else []

def objectComment (settings : Settings) (type : ObjectType) : List String :=
  if type.kind = .model then
    comment (commentText settings type.documentation (modelGuide type.name))
  else []

def entryLines (settings : Settings) (type : ObjectType) : String × ObjectEntry → List String
  | (key, .name text) => [property key (literal text)]
  | (key, .description text) => [property key (literal text)]
  | (_, .field field) => fieldComment settings type field ++ fieldLines type.name field

def objectLines (settings : Settings) (type : ObjectType) : List String :=
  objectComment settings type ++
    declared type.name (type.entries.entries.flatMap (entryLines settings type))

def enumLines (type : EnumType) : List String :=
  declared type.name
    [property "name" (literal type.name),
      property "description" (optionalLiteral type.description),
      property "members" ("[" ++ ", ".intercalate (type.members.map literal) ++ "]")]

def documentedEnumLines (settings : Settings) (enum : DocumentedEnum) : List String :=
  comment (commentText settings enum.documentation (enumGuide enum.type.name)) ++
    enumLines enum.type

def inputLines (type : InputType) : List String :=
  declared type.name
    ([property "name" (literal type.name),
      property "description" (optionalLiteral type.description)] ++
      propertyBlock "definition"
        (type.fields.values.map fun field => property field.name (typeDeclaration field.type)))

/-- The declarations of all types, each after an empty line. -/
def typeLines (schema : Schema) : List String :=
  (schema.graph.enums.values.map (documentedEnumLines schema.settings) ++
    schema.catalog.enums.values.map enumLines ++
    schema.graph.objects.map (objectLines schema.settings) ++
    schema.catalog.inputs.values.map inputLines).flatMap ("" :: ·)

end DeclarationModule

open DeclarationModule in
/-- The lines of the declaration module. -/
def Schema.declarationModule (schema : Schema) : List String :=
  [Module.banner, "import type * as NexusCore from " ++ Source.literal "nexus/dist/core", ""] ++
    settingsLines ++ typeLines schema

end GraphBinding
