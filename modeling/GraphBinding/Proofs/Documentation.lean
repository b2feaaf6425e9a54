import GraphBinding.Module
import GraphBinding.Proofs.DeclaredAliases
import GraphBinding.Proofs.DocumentedTypes

namespace GraphBinding

/-! What documentation can change of a schema and of the modules that are written for it.

Two documents are compared that are the same without their documentation.  `Overlooks` says of
something that is seen of object types that it is the same for both; whatever is written out of
objects only has to be shown to be such a thing.
-/

namespace DeclarationModule

variable {settings : Settings} (quiet : settings.docPropagation.comments = false)

include quiet

theorem comment_quiet (documentation : Option String) (guide : List String) :
    comment (commentText settings documentation guide) = [] := by
  have nothing : commentText settings documentation guide = [] := by
    unfold commentText
    rw [quiet]
    rfl
  rw [nothing]
  rfl

theorem objectComment_quiet (type : ObjectType) : objectComment settings type = [] := by
  rw [objectComment, comment_quiet quiet, ite_self]

theorem fieldComment_quiet (type : ObjectType) (field : OutputField) :
    fieldComment settings type field = [] := by
  rw [fieldComment, comment_quiet quiet, ite_self]

theorem documentedEnumLines_quiet (enum : DocumentedEnum) :
    documentedEnumLines settings enum = enumLines enum.type := by
  rw [documentedEnumLines, comment_quiet quiet, List.nil_append]

end DeclarationModule

namespace ObjectType

variable (type : ObjectType)

theorem values_uncommented :
    type.uncommented.entries.values = type.entries.values.map ObjectEntry.uncommented :=
  Table.values_mapped ..

theorem name_uncommented : type.uncommented.name = type.name := by
  have each : ObjectEntry.name? ∘ ObjectEntry.uncommented = ObjectEntry.name? := by
    funext entry
    cases entry <;> rfl
  rw [name, values_uncommented, List.findSome?_map, each, name]

theorem description_uncommented : type.uncommented.description = type.description := by
  have each : ObjectEntry.description? ∘ ObjectEntry.uncommented = ObjectEntry.description? := by
    funext entry
    cases entry <;> rfl
  rw [description, values_uncommented, List.findSome?_map, each, description]

theorem fields_uncommented :
    type.uncommented.fields = type.fields.map OutputField.uncommented := by
  have each : ObjectEntry.field? ∘ ObjectEntry.uncommented =
      fun entry => entry.field?.map OutputField.uncommented := by
    funext entry
    cases entry <;> rfl
  rw [fields, values_uncommented, List.filterMap_map, each, fields, List.map_filterMap]

theorem sdl_uncommented : type.uncommented.sdl = type.sdl := by
  rw [sdl, name_uncommented, description_uncommented, fields_uncommented, List.flatMap_map, sdl]
  rfl

theorem flatMap_uncommented {lines : String × ObjectEntry → List String}
    (blind : ∀ key entry, lines (key, entry.uncommented) = lines (key, entry)) :
    type.uncommented.entries.entries.flatMap lines = type.entries.entries.flatMap lines := by
  change (type.entries.entries.map _).flatMap lines = _
  rw [List.flatMap_map]
  exact congrArg (type.entries.entries.flatMap ·) (funext fun entry => blind entry.1 entry.2)

theorem scriptLines_uncommented (flavor : Flavor) :
    ScriptModule.objectLines flavor type.uncommented = ScriptModule.objectLines flavor type := by
  rw [ScriptModule.objectLines, name_uncommented, flatMap_uncommented, ScriptModule.objectLines]
  intro key entry
  cases entry <;> rfl

theorem declarationLines_uncommented {settings : Settings}
    (quiet : settings.docPropagation.comments = false) :
    DeclarationModule.objectLines settings type.uncommented =
      DeclarationModule.objectLines settings type := by
  have entries : type.uncommented.entries.entries.flatMap
        (DeclarationModule.entryLines settings type.uncommented) =
      type.entries.entries.flatMap (DeclarationModule.entryLines settings type) := by
    have sameLines : DeclarationModule.entryLines settings type.uncommented =
        DeclarationModule.entryLines settings type := by
      funext ⟨key, entry⟩
      cases entry with
      | field definition =>
          simp only [DeclarationModule.entryLines, DeclarationModule.fieldComment_quiet quiet,
            name_uncommented]
      | _ => rfl
    rw [sameLines, flatMap_uncommented]
    intro key entry
    cases entry with
    | field definition =>
        simp only [ObjectEntry.uncommented, DeclarationModule.entryLines,
          DeclarationModule.fieldComment_quiet quiet]
        rfl
    | _ => rfl
  simp only [DeclarationModule.objectLines, DeclarationModule.objectComment_quiet quiet,
    name_uncommented, entries]

end ObjectType

namespace Projection

open Drafting

/-- What is seen of an object type does not depend on the documentation of its model. -/
def Overlooks {σ : Type} (settings : Settings) (see : ObjectType → σ) : Prop :=
  ∀ model, (modelObject settings model.undocumented).map see =
    (modelObject settings model).map see

/-- Where documentation becomes no description, what does not see comments overlooks it. -/
theorem overlooks_of_blind {σ : Type} {settings : Settings}
    (silent : settings.docPropagation.descriptions = false) {see : ObjectType → σ}
    (blind : ∀ type, see type.uncommented = see type) : Overlooks settings see := by
  intro model
  rw [uncommented_modelObject silent]
  cases modelObject settings model with
  | error reason => rfl
  | ok object => exact congrArg Except.ok (blind object)

/-- Of two graphs everything is the same that does not depend on documentation. -/
structure Agree (settings : Settings) (graph other : TypeGraph) : Prop where
  models : ∀ {σ : Type} {see : ObjectType → σ}, Overlooks settings see →
    graph.models.mapped see = other.models.mapped see
  listResults : graph.listResults = other.listResults
  enums : ∀ {σ : Type} {see : DocumentedEnum → σ},
    (∀ enum, see (documentedEnum settings enum.undocumented) =
      see (documentedEnum settings enum)) →
    graph.enums.mapped see = other.enums.mapped see
  query : graph.query = other.query

variable {first second : Document} {settings : Settings} {graph other : TypeGraph}

theorem mapM_undocumented (same : first.undocumented = second.undocumented) {σ : Type}
    {see : ObjectType → σ} (overlooks : Overlooks settings see) :
    (first.models.mapM (modelObject settings)).map (List.map see) =
      (second.models.mapM (modelObject settings)).map (List.map see) := by
  have seen : ∀ document : Document,
      (document.models.mapM (modelObject settings)).map (List.map see) =
        document.undocumented.models.mapM fun model => (modelObject settings model).map see := by
    intro document
    rw [Document.undocumented, List.mapM_map, ← mapM_map_ok]
    exact congrArg (document.models.mapM ·) (funext fun model => (overlooks model).symm)
  rw [seen, seen, same]

theorem agree_of_assembled (same : first.undocumented = second.undocumented) {draft after : Draft}
    (made : outcome assemble { document := first, settings } = (.ok graph, draft))
    (madeOther : outcome assemble { document := second, settings } = (.ok other, after)) :
    Agree settings graph other := by
  obtain ⟨objects, _, objectsOk, queryOk, models, pages, enums, -, -⟩ := assemble_ok made
  obtain ⟨others, _, othersOk, otherQueryOk, otherModels, otherPages, otherEnums, -, -⟩ :=
    assemble_ok madeOther
  have names : first.models.map Model.name = second.models.map Model.name := by
    rw [← Document.names_undocumented, same, Document.names_undocumented]
  constructor
  · intro σ see overlooks
    have seen := mapM_undocumented same overlooks
    rw [objectsOk, othersOk] at seen
    have zipped : ∀ (names : List String) (objects : List ObjectType),
        Entries.mapped see (names.zip objects) = names.zip (objects.map see) :=
      fun _ _ => List.zip_map_right.symm
    rw [models, otherModels, Table.mapped_ofEntries, Table.mapped_ofEntries, zipped, zipped,
      Except.ok.inj seen]
    dsimp only
    rw [names]
  · have pagesOf : ∀ document : Document,
        (document.models.map fun model => listResult model.name) =
          (document.models.map Model.name).map listResult := by
      intro document
      rw [List.map_map]
      rfl
    rw [pages, otherPages, pagesOf, pagesOf]
    dsimp only
    rw [names]
  · intro σ see overlooks
    have seen : ∀ document : Document,
        Entries.mapped see ((document.enums.map (documentedEnum settings)).map fun enum =>
            (enum.type.name, enum)) =
          document.undocumented.enums.map fun enum =>
            (enum.name, see (documentedEnum settings enum)) := by
      intro document
      simp only [Entries.mapped, Document.undocumented, List.map_map]
      exact List.map_congr_left fun enum _ => congrArg (Prod.mk enum.name) (overlooks enum).symm
    rw [enums, otherEnums, Table.ofValues, Table.ofValues, Table.mapped_ofEntries,
      Table.mapped_ofEntries, seen, seen]
    dsimp only
    rw [same]
  · dsimp only at queryOk otherQueryOk
    rw [names, otherQueryOk] at queryOk
    exact (Except.ok.inj queryOk).symm

namespace Agree

theorem objects (agree : Agree settings graph other) {σ : Type} {see : ObjectType → σ}
    (overlooks : Overlooks settings see) : graph.objects.map see = other.objects.map see := by
  have models := congrArg Table.values (agree.models overlooks)
  rw [Table.values_mapped, Table.values_mapped] at models
  simp only [TypeGraph.objects, List.map_append, models, agree.listResults, agree.query]

theorem enumValues (agree : Agree settings graph other) {σ : Type} {see : DocumentedEnum → σ}
    (overlooks : ∀ enum, see (documentedEnum settings enum.undocumented) =
      see (documentedEnum settings enum)) :
    graph.enums.values.map see = other.enums.values.map see := by
  have enums := congrArg Table.values (agree.enums overlooks)
  rwa [Table.values_mapped, Table.values_mapped] at enums

theorem object? (agree : Agree settings graph other) {σ : Type} {see : ObjectType → σ}
    (overlooks : Overlooks settings see) (name : String) :
    (graph.object? name).map see = (other.object? name).map see := by
  have models := congrArg (Table.find? · name) (agree.models overlooks)
  simp only [Table.find?_mapped] at models
  unfold TypeGraph.object?
  split
  · rw [agree.query]
  · rw [Option.map_or, Option.map_or, models, agree.listResults]

end Agree

end Projection

def DocumentedEnum.undocumented (enum : DocumentedEnum) : DocumentedEnum where
  type := { enum.type with description := none }

namespace Schema

/-- Schemas of which one may describe what the other does not, in every other respect equal. -/
structure SameButDocs (schema other : Schema) : Prop where
  settings : schema.settings = other.settings
  catalog : schema.catalog = other.catalog
  aliases : schema.aliases = other.aliases
  identifiers : schema.identifiers = other.identifiers
  models : schema.graph.models.mapped ObjectType.skeleton =
    other.graph.models.mapped ObjectType.skeleton
  listResults : schema.graph.listResults = other.graph.listResults
  enums : schema.graph.enums.mapped DocumentedEnum.undocumented =
    other.graph.enums.mapped DocumentedEnum.undocumented
  query : schema.graph.query = other.graph.query
  fields : ∀ parent field, (schema.field? parent field).map OutputField.undocumented =
    (other.field? parent field).map OutputField.undocumented

variable {first second : Document} {settings : Settings} {schema other : Schema}

/-- Documentation gets into the graph at most, where it is overlooked by everything else. -/
theorem agree_of_generate (same : first.undocumented = second.undocumented)
    (generated : generate first settings = .ok schema)
    (generatedOther : generate second settings = .ok other) :
    schema.settings = settings ∧ other = { schema with graph := other.graph } ∧
      Projection.Agree settings schema.graph other.graph := by
  obtain ⟨graph, draft, assembled, renamed, rfl⟩ := drafted_of_generate generated
  obtain ⟨otherGraph, after, otherAssembled, otherRenamed, rfl⟩ :=
    drafted_of_generate generatedOther
  have drafts : (first.draft settings).under first.undocumented =
      (second.draft settings).under first.undocumented := by
    rw [← Document.draft_undocumented, same, ← Document.draft_undocumented]
  have afterwards : draft.under first.undocumented = after.under first.undocumented := by
    have both := congrArg (·.renameAll settings.renamings) drafts
    rw [Draft.renameAll_under, Draft.renameAll_under, renamed, otherRenamed] at both
    exact Except.ok.inj both
  refine ⟨?_, ?_, Projection.agree_of_assembled same assembled otherAssembled⟩
  · change draft.settings = settings
    rw [(Draft.renames_of_renameAll renamed).others]
    rfl
  · change (after.under first.undocumented).finish otherGraph = _
    rw [← afterwards]
    rfl

theorem sameButDocs_of_agree {graph : TypeGraph}
    (agree : Projection.Agree settings schema.graph graph) :
    schema.SameButDocs { schema with graph } where
  settings := rfl
  catalog := rfl
  aliases := rfl
  identifiers := rfl
  models := agree.models Projection.skeleton_modelObject
  listResults := agree.listResults
  enums := by
    refine agree.enums fun enum => ?_
    rfl
  query := agree.query
  fields parent field := by
    have shown : ∀ graph : TypeGraph,
        (({ schema with graph } : Schema).field? parent field).map OutputField.undocumented =
          ((graph.object? parent).map ObjectType.skeleton).bind (·.field? field) := by
      intro graph
      change ((graph.object? parent).bind (·.field? field)).map _ = _
      cases graph.object? parent with
      | none => rfl
      | some object => exact (object.field?_skeleton field).symm
    rw [shown graph, ← agree.object? Projection.skeleton_modelObject, ← shown schema.graph]

section Silent

variable {graph : TypeGraph} (agree : Projection.Agree settings schema.graph graph)
  (silent : settings.docPropagation.descriptions = false)

include silent

theorem enum_silent (enum : Enum) :
    (Projection.documentedEnum settings enum.undocumented).type =
      (Projection.documentedEnum settings enum).type := by
  rw [Projection.documentedEnum, Projection.documentedEnum, Projection.descriptionOf_silent silent,
    Projection.descriptionOf_silent silent]
  rfl

include agree

theorem sdl_silent : schema.sdl = ({ schema with graph } : Schema).sdl := by
  have objects : schema.graph.objects.map ObjectType.sdl = graph.objects.map ObjectType.sdl :=
    agree.objects (Projection.overlooks_of_blind silent ObjectType.sdl_uncommented)
  have enums : schema.graph.enums.values.map (·.type.sdl) = graph.enums.values.map (·.type.sdl) :=
    agree.enumValues fun enum => congrArg EnumType.sdl (enum_silent silent enum)
  simp only [sdl, objects, enums]

theorem scriptModule_silent (flavor : Flavor) :
    schema.scriptModule flavor = ({ schema with graph } : Schema).scriptModule flavor := by
  have objects : schema.graph.objects.map (ScriptModule.objectLines flavor) =
      graph.objects.map (ScriptModule.objectLines flavor) :=
    agree.objects (Projection.overlooks_of_blind silent (·.scriptLines_uncommented flavor))
  have enums : schema.graph.enums.values.map (ScriptModule.enumLines flavor ·.type) =
      graph.enums.values.map (ScriptModule.enumLines flavor ·.type) :=
    agree.enumValues fun enum =>
      congrArg (ScriptModule.enumLines flavor) (enum_silent silent enum)
  have types : ScriptModule.typeLines schema flavor =
      ScriptModule.typeLines { schema with graph } flavor := by
    simp only [ScriptModule.typeLines, objects, enums]
  rw [scriptModule, types]
  rfl

theorem declarationModule_silent (quiet : settings.docPropagation.comments = false)
    (given : schema.settings = settings) :
    schema.declarationModule = ({ schema with graph } : Schema).declarationModule := by
  have objects : schema.graph.objects.map (DeclarationModule.objectLines settings) =
      graph.objects.map (DeclarationModule.objectLines settings) :=
    agree.objects (Projection.overlooks_of_blind silent (·.declarationLines_uncommented quiet))
  have enums : schema.graph.enums.values.map (DeclarationModule.documentedEnumLines settings) =
      graph.enums.values.map (DeclarationModule.documentedEnumLines settings) := by
    refine agree.enumValues fun enum => ?_
    simp only [DeclarationModule.documentedEnumLines_quiet quiet, enum_silent silent]
  have types : DeclarationModule.typeLines schema =
      DeclarationModule.typeLines { schema with graph } := by
    simp only [DeclarationModule.typeLines, given, objects, enums]
  rw [declarationModule, types]
  rfl

end Silent

end Schema

/-- Documents that differ in their documentation have the same error, or schemas that differ in
descriptions and in what comments say.  Where documentation becomes no description, schema
language and script modules are the same as well, and without comments the declarations too. -/
theorem documentation_only_documents {first second : Document}
    (same : first.undocumented = second.undocumented) (settings : Settings) :
    (∀ reason, Schema.generate first settings = .error reason ↔
      Schema.generate second settings = .error reason) ∧
    ∀ schema, Schema.generate first settings = .ok schema →
      ∃ other, Schema.generate second settings = .ok other ∧ schema.SameButDocs other ∧
        (settings.docPropagation.descriptions = false →
          schema.sdl = other.sdl ∧
            (∀ flavor, schema.scriptFile flavor = other.scriptFile flavor) ∧
            (settings.docPropagation.comments = false →
              Source.text schema.declarationModule = Source.text other.declarationModule)) := by
  have refused : refusal? (Schema.generate first settings) =
      refusal? (Schema.generate second settings) := by
    rw [Projection.refusal?_generate, Projection.refusal?_generate,
      ← Document.violation?_undocumented, same, Document.violation?_undocumented]
  constructor
  · intro reason
    rw [← refusal?_eq_some, ← refusal?_eq_some, refused]
  · intro schema generated
    have accepted : refusal? (Schema.generate second settings) = none := by
      rw [← refused, generated]
      rfl
    obtain ⟨other, generatedOther⟩ := refusal?_eq_none.1 accepted
    obtain ⟨given, sameRest, agree⟩ := Schema.agree_of_generate same generated generatedOther
    refine ⟨other, generatedOther, ?_⟩
    rw [sameRest]
    refine ⟨Schema.sameButDocs_of_agree agree,
      fun silent => ⟨?_, fun flavor => ?_, fun quiet => ?_⟩⟩
    · exact Schema.sdl_silent agree silent
    · exact congrArg (GeneratedFile.mk flavor.fileName <| Source.text ·)
        (Schema.scriptModule_silent agree silent flavor)
    · exact congrArg Source.text (Schema.declarationModule_silent agree silent quiet given)

/-- A described model with a field that takes the place of the description. -/
def notes : Document where
  models :=
    [{ name := "Note"
       documentation := some "What was noted."
       fields :=
         [{ name := "id", kind := .scalar, type := "Int", isId := true },
           { name := descriptionKey, kind := .scalar, type := "String",
             documentation := some "In short." }] }]

/-- The field stands in another place where the model is described.  Without descriptions and
comments nothing is different. -/
theorem documentation_only_documents_notes :
    (∃ schema other, Schema.generate notes {} = .ok schema ∧
      Schema.generate notes.undocumented {} = .ok other ∧ schema.SameButDocs other ∧
      (schema.object? "Note").map (·.fields.map OutputField.name) = some ["$description", "id"] ∧
      (other.object? "Note").map (·.fields.map OutputField.name) = some ["id", "$description"]) ∧
    ∃ schema other,
      Schema.generate notes { docPropagation := ⟨false, false⟩ } = .ok schema ∧
      Schema.generate notes.undocumented { docPropagation := ⟨false, false⟩ } = .ok other ∧
      schema.sdl = other.sdl ∧
      Source.text schema.declarationModule = Source.text other.declarationModule := by
  have same : notes.undocumented = notes.undocumented.undocumented := rfl
  constructor
  · have described : ∃ schema, Schema.generate notes {} = .ok schema ∧
        (schema.object? "Note").map (·.fields.map OutputField.name) =
          some ["$description", "id"] := Schema.generated_of_check (by decide +kernel)
    have bare : ∃ schema, Schema.generate notes.undocumented {} = .ok schema ∧
        (schema.object? "Note").map (·.fields.map OutputField.name) =
          some ["id", "$description"] := Schema.generated_of_check (by decide +kernel)
    obtain ⟨schema, generated, fields⟩ := described
    obtain ⟨_, generatedBare, bareFields⟩ := bare
    obtain ⟨other, generatedOther, sameButDocs, -⟩ :=
      (documentation_only_documents same {}).2 schema generated
    rw [generatedBare] at generatedOther
    cases generatedOther
    exact ⟨schema, _, generated, generatedBare, sameButDocs, fields, bareFields⟩
  · have generates : ∃ schema,
        Schema.generate notes { docPropagation := ⟨false, false⟩ } = .ok schema :=
      refusal?_eq_none.1 (by decide +kernel)
    obtain ⟨schema, generated⟩ := generates
    obtain ⟨other, generatedOther, -, silent⟩ := (documentation_only_documents same
      { docPropagation := ⟨false, false⟩ }).2 schema generated
    obtain ⟨sdl, -, declarations⟩ := silent rfl
    exact ⟨schema, other, generated, generatedOther, sdl, declarations rfl⟩

end GraphBinding
