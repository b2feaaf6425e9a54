import GraphBinding.Json
import GraphBinding.Settings

namespace GraphBinding

/-! Settings as JSON values, with every member written out. -/

def IdProjection.spelling : IdProjection → String
  | .id => "ID"
  | .int => "Int"

def MissingDocComment.spelling : MissingDocComment → String
  | .guide => "guide"
  | .none => "none"

def CheckStrategy.spelling : CheckStrategy → String
  | .strict => "strict"
  | .structural => "structural"
  | .strictWithFallback => "strictWithFallback"

def DocPropagation.toJson (docs : DocPropagation) : Json :=
  .object [("JSDoc", .boolean docs.comments), ("GraphQLDocs", .boolean docs.descriptions)]

def OutputFormats.toJson (output : OutputFormats) : Json :=
  .object [("esm", .boolean output.esm), ("cjs", .boolean output.cjs)]

def ClientCheck.toJson (check : ClientCheck) : Json :=
  .object [("enabled", .boolean check.enabled), ("strategy", .string check.strategy.spelling)]

namespace RuntimeSettings

def members (settings : RuntimeSettings) : List (String × Json) :=
  [("prismaClientContextField", .string settings.contextField),
    ("prismaClientImportId", .string settings.clientIdentity),
    ("checks", .object [("PrismaClientOnContext", settings.clientCheck.toJson)])]

def toJson (settings : RuntimeSettings) : Json := .object settings.members

end RuntimeSettings

/-- A table of texts as an object. -/
def textTableJson (table : Table String) : Json :=
  .object (table.entries.map fun (name, text) => (name, .string text))

def nestedTableJson (table : Table (Table String)) : Json :=
  .object (table.entries.map fun (name, inner) => (name, textTableJson inner))

def Settings.toJson (settings : Settings) : Json :=
  .object ([("projectIdIntToGraphQL", .string settings.idProjection.spelling),
    ("docPropagation", settings.docPropagation.toJson),
    ("jsdocPropagationDefault", .string settings.missingDocComment.spelling),
    ("output", settings.output.toJson),
    ("inputFieldAliases", nestedTableJson settings.fieldAliases)] ++ settings.runtime.members)

end GraphBinding
