import GraphBinding.Decoder.Shape
import GraphBinding.Settings.Overrides

namespace GraphBinding

/-! Settings out of JSON values and texts.

The members of the runtime settings stand beside the other members.  They are set aside
until all others were decoded, and in a text until all others were read.
-/

open Decoder Record

def IdProjection.spellings : List (String × IdProjection) := [("ID", .id), ("Int", .int)]

def MissingDocComment.spellings : List (String × MissingDocComment) :=
  [("guide", .guide), ("none", .none)]

/-- Two of the strategies have a second spelling. -/
def CheckStrategy.spellings : List (String × CheckStrategy) :=
  [("instanceOf", .strict), ("strict", .strict), ("duckType", .structural),
    ("structural", .structural), ("strictWithFallback", .strictWithFallback)]

def DocPropagation.record : Record DocPropagation :=
  DocPropagation.mk <$> optional "JSDoc" true boolean <*> optional "GraphQLDocs" true boolean

def OutputFormats.record : Record OutputFormats :=
  OutputFormats.mk <$> optional "esm" true boolean <*> optional "cjs" true boolean

def ClientCheck.record (origin : Origin) : Record ClientCheck :=
  ClientCheck.mk <$> optional "enabled" true boolean
    <*> optional "strategy" .strictWithFallback (variant origin CheckStrategy.spellings)

/-- The checks, of which there is one. -/
def ClientCheck.checksRecord (origin : Origin) : Record ClientCheck :=
  id <$> optional "PrismaClientOnContext" {}
    ((ClientCheck.record origin).decoder origin "CheckSetting")

def RuntimeSettings.record (origin : Origin) : Record RuntimeSettings :=
  RuntimeSettings.mk <$> optional "prismaClientContextField" "prisma" string
    <*> optional "prismaClientImportId" "@prisma/client" string
    <*> optional "checks" {} ((ClientCheck.checksRecord origin).decoder origin "Checks")

def RuntimeSettings.decode : Decoder RuntimeSettings :=
  (RuntimeSettings.record .tree).decoder .tree "RuntimeSettings"

/-- The settings without the runtime settings. -/
def Settings.ownRecord : Record (RuntimeSettings → Settings) :=
  Settings.mk <$> optional "projectIdIntToGraphQL" .int (variant .tree IdProjection.spellings)
    <*> optional "docPropagation" {} (DocPropagation.record.decoder .tree "DocPropagation")
    <*> optional "jsdocPropagationDefault" .guide (variant .tree MissingDocComment.spellings)
    <*> optional "output" {} (OutputFormats.record.decoder .tree "OutputFormats")
    <*> optional "inputFieldAliases" Table.empty (table (table string))

/-- Settings are never given as an array. -/
def Settings.decode : Decoder Settings
  | .object members => do
      let own ← Settings.ownRecord.ofMembers members
      let runtime ← (RuntimeSettings.record .setAside).ofMembers members
      return own runtime
  | json => fail json "struct Settings"

/-- What a text of settings should hold; the runtime settings are not checked yet. -/
def Settings.shape : Shape :=
  .extended "Settings"
    [("projectIdIntToGraphQL", .variant (Entries.keys IdProjection.spellings)),
      ("docPropagation", .record "DocPropagation" [("JSDoc", .boolean), ("GraphQLDocs", .boolean)]),
      ("jsdocPropagationDefault", .variant (Entries.keys MissingDocComment.spellings)),
      ("output", .record "OutputFormats" [("esm", .boolean), ("cjs", .boolean)]),
      ("inputFieldAliases", .table (.table .string))]

def ClientCheckChange.record : Record ClientCheckChange :=
  ClientCheckChange.mk <$> optional "enabled" none (nullable boolean)
    <*> optional "strategy" none (nullable (variant .tree CheckStrategy.spellings))

def ChecksChange.record : Record ChecksChange :=
  ChecksChange.mk <$> optional "PrismaClientOnContext" none
    (nullable (ClientCheckChange.record.decoder .tree "CheckSettingInput"))

def SettingsChange.record : Record SettingsChange :=
  SettingsChange.mk <$> optional "prismaClientContextField" none (nullable string)
    <*> optional "prismaClientImportId" none (nullable string)
    <*> optional "checks" none (nullable (ChecksChange.record.decoder .tree "ChecksInput"))

def SettingsChange.decode : Decoder SettingsChange :=
  SettingsChange.record.decoder .tree "SettingsInput"

end GraphBinding
