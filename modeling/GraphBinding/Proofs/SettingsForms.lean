import GraphBinding.Proofs.EmbeddedTexts
import GraphBinding.Proofs.Pruning

namespace GraphBinding

/-! Settings written out, less some of their members, and decoded.

Every record is decoded for any choice of the members that are gone.  A column that is gone
takes the default of its record, and so does everything inside of it. -/

open Record Json

/-- A member of written settings that may be left out. -/
inductive Settings.Member where
  | idProjection
  | docPropagation
  | comments
  | descriptions
  | missingDocComment
  | output
  | esm
  | cjs
  | fieldAliases
  | contextField
  | clientIdentity
  | checks
  | clientCheck
  | enabled
  | strategy
deriving DecidableEq, Repr

namespace Settings

/-- The names that lead to a member. -/
def Member.path : Member → List String
  | .idProjection => ["projectIdIntToGraphQL"]
  | .docPropagation => ["docPropagation"]
  | .comments => ["docPropagation", "JSDoc"]
  | .descriptions => ["docPropagation", "GraphQLDocs"]
  | .missingDocComment => ["jsdocPropagationDefault"]
  | .output => ["output"]
  | .esm => ["output", "esm"]
  | .cjs => ["output", "cjs"]
  | .fieldAliases => ["inputFieldAliases"]
  | .contextField => ["prismaClientContextField"]
  | .clientIdentity => ["prismaClientImportId"]
  | .checks => ["checks"]
  | .clientCheck => ["checks", "PrismaClientOnContext"]
  | .enabled => ["checks", "PrismaClientOnContext", "enabled"]
  | .strategy => ["checks", "PrismaClientOnContext", "strategy"]

theorem Member.path_injective : Function.Injective Member.path := by
  intro left right
  cases left <;> cases right <;> simp [path]

/-- The settings with some of their members at their defaults. -/
def resetting (settings : Settings) (gone : Member → Bool) : Settings where
  idProjection :=
    if gone .idProjection then ({} : Settings).idProjection else settings.idProjection
  docPropagation :=
    if gone .docPropagation then {}
    else {
      comments :=
        if gone .comments then ({} : DocPropagation).comments else settings.docPropagation.comments
      descriptions :=
        if gone .descriptions then ({} : DocPropagation).descriptions
        else settings.docPropagation.descriptions }
  missingDocComment :=
    if gone .missingDocComment then ({} : Settings).missingDocComment
    else settings.missingDocComment
  output :=
    if gone .output then {}
    else {
      esm := if gone .esm then ({} : OutputFormats).esm else settings.output.esm
      cjs := if gone .cjs then ({} : OutputFormats).cjs else settings.output.cjs }
  fieldAliases :=
    if gone .fieldAliases then ({} : Settings).fieldAliases else settings.fieldAliases
  runtime := {
    contextField :=
      if gone .contextField then ({} : RuntimeSettings).contextField
      else settings.runtime.contextField
    clientIdentity :=
      if gone .clientIdentity then ({} : RuntimeSettings).clientIdentity
      else settings.runtime.clientIdentity
    clientCheck :=
      if gone .checks then {}
      else if gone .clientCheck then {}
      else {
        enabled :=
          if gone .enabled then ({} : ClientCheck).enabled
          else settings.runtime.clientCheck.enabled
        strategy :=
          if gone .strategy then ({} : ClientCheck).strategy
          else settings.runtime.clientCheck.strategy } }

theorem resetting_none (settings : Settings) : (settings.resetting fun _ => false) = settings := rfl

end Settings

theorem IdProjection.variant_spelling (origin : Origin) (projection : IdProjection) :
    Decoder.variant origin spellings (.string projection.spelling) = .ok projection := by
  cases projection <;> rfl

theorem MissingDocComment.variant_spelling (origin : Origin) (comment : MissingDocComment) :
    Decoder.variant origin spellings (.string comment.spelling) = .ok comment := by
  cases comment <;> rfl

/-- Of the two spellings of a strategy the written one is read back. -/
theorem CheckStrategy.variant_spelling (origin : Origin) (strategy : CheckStrategy) :
    Decoder.variant origin spellings (.string strategy.spelling) = .ok strategy := by
  cases strategy <;> rfl

section Records

variable (gone : List String → Bool)

/-- A record of two columns that are on or off, and on when they are gone. -/
theorem decoder_toggles {α : Type} (make : Bool → Bool → α) (shapeName first second : String)
    (different : first ≠ second) (one two : Bool) :
    (make <$> optional first true Decoder.boolean <*> optional second true Decoder.boolean).decoder
        .tree shapeName
        ((Json.object [(first, .boolean one), (second, .boolean two)]).without gone) =
      .ok (make (if gone [first] then true else one) (if gone [second] then true else two)) := by
  have distinct : [first, second].Nodup := by simpa using different
  have atFirst : Entries.find? [(first, boolean one), (second, boolean two)] first =
      some (.boolean one) := by simp [Entries.find?_cons]
  have atSecond : Entries.find? [(first, boolean one), (second, boolean two)] second =
      some (.boolean two) := by simp [Entries.find?_cons, different]
  exact Keeps.ofMembers (.seq (.map _ (.optional atFirst rfl)) (.optional atSecond rfl)) distinct

namespace ClientCheck

theorem decoder_without (origin : Origin) (check : ClientCheck) :
    (record origin).decoder origin "CheckSetting" (check.toJson.without gone) =
      .ok ⟨if gone ["enabled"] then true else check.enabled,
        if gone ["strategy"] then .strictWithFallback else check.strategy⟩ := by
  have distinct : ["enabled", "strategy"].Nodup := by decide
  have strategy := CheckStrategy.variant_spelling origin check.strategy
  exact Keeps.ofMembers (.seq (.map _ (.optional rfl rfl)) (.optional rfl strategy)) distinct

theorem checksDecoder_without (origin : Origin) (check : ClientCheck) :
    (checksRecord origin).decoder origin "Checks"
        ((Json.object [("PrismaClientOnContext", check.toJson)]).without gone) =
      .ok (if gone ["PrismaClientOnContext"] then {}
        else ⟨if gone ["PrismaClientOnContext", "enabled"] then true else check.enabled,
          if gone ["PrismaClientOnContext", "strategy"] then .strictWithFallback
          else check.strategy⟩) := by
  have distinct : ["PrismaClientOnContext"].Nodup := by decide
  exact Keeps.ofMembers (.map _ (.optional rfl (decoder_without _ origin check))) distinct

end ClientCheck

end Records

namespace Settings

/-- What the settings are written as, under its names. -/
def members (settings : Settings) : List (String × Json) :=
  [("projectIdIntToGraphQL", .string settings.idProjection.spelling),
    ("docPropagation", settings.docPropagation.toJson),
    ("jsdocPropagationDefault", .string settings.missingDocComment.spelling),
    ("output", settings.output.toJson),
    ("inputFieldAliases", ofTable (ofTable .string) settings.fieldAliases),
    ("prismaClientContextField", .string settings.runtime.contextField),
    ("prismaClientImportId", .string settings.runtime.clientIdentity),
    ("checks", .object [("PrismaClientOnContext", settings.runtime.clientCheck.toJson)])]

theorem toJson_eq (settings : Settings) : settings.toJson = .object settings.members := rfl

theorem nodup_keys_members (settings : Settings) : (Entries.keys settings.members).Nodup := by
  have distinct : ["projectIdIntToGraphQL", "docPropagation", "jsdocPropagationDefault", "output",
    "inputFieldAliases", "prismaClientContextField", "prismaClientImportId", "checks"].Nodup := by
    decide
  exact distinct

/-- Aliases are written as a whole or not at all. -/
def KeepsAliases (gone : List String → Bool) : Prop :=
  ∀ name path, gone ("inputFieldAliases" :: name :: path) = false

theorem KeepsAliases.without {gone : List String → Bool} (whole : KeepsAliases gone)
    (aliases : Json) :
    (aliases.without fun path => gone ("inputFieldAliases" :: path)) = aliases := by
  apply without_eq_self
  exact whole

variable (settings : Settings) (gone : List String → Bool)

theorem ownRecord_keeps (whole : KeepsAliases gone) :
    Keeps gone settings.members ownRecord fun runtime =>
      { settings.resetting fun member => gone member.path with runtime } := by
  have projection := IdProjection.variant_spelling .tree settings.idProjection
  have docs := decoder_toggles (fun path => gone ("docPropagation" :: path)) DocPropagation.mk
    "DocPropagation" "JSDoc" "GraphQLDocs" (by decide) settings.docPropagation.comments
    settings.docPropagation.descriptions
  have comment := MissingDocComment.variant_spelling .tree settings.missingDocComment
  have output := decoder_toggles (fun path => gone ("output" :: path)) OutputFormats.mk
    "OutputFormats" "esm" "cjs" (by decide) settings.output.esm settings.output.cjs
  have native (text : String) : Decoder.string (.string text) = .ok text := rfl
  have aliases : Decoder.table (Decoder.table Decoder.string)
      ((ofTable (ofTable .string) settings.fieldAliases).without
        fun path => gone ("inputFieldAliases" :: path)) = .ok settings.fieldAliases := by
    rw [whole.without]
    exact table_ofTable (table_ofTable native) settings.fieldAliases
  exact .seq (.seq (.seq (.seq (.map _ (.optional rfl projection)) (.optional rfl docs))
    (.optional rfl comment)) (.optional rfl output)) (.optional rfl aliases)

theorem runtimeRecord_keeps (origin : Origin) :
    Keeps gone settings.members (RuntimeSettings.record origin)
      (settings.resetting fun member => gone member.path).runtime := by
  have check := settings.runtime.clientCheck.checksDecoder_without
    (fun path => gone ("checks" :: path)) origin
  exact .seq (.seq (.map _ (.optional rfl rfl)) (.optional rfl rfl)) (.optional rfl check)

theorem decode_without (whole : KeepsAliases gone) :
    decode (settings.toJson.without gone) =
      .ok (settings.resetting fun member => gone member.path) := by
  have own := (settings.ownRecord_keeps gone whole).ofMembers settings.nodup_keys_members
  have runtime := (settings.runtimeRecord_keeps gone .setAside).ofMembers
    settings.nodup_keys_members
  rw [toJson_eq, without, decode, own, runtime]
  rfl

end Settings

end GraphBinding
