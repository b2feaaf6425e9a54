import GraphBinding.Module
import Mathlib.Data.List.Forall2

namespace GraphBinding

/-! What is written out for the types of a schema: in schema language and in either module one
declaration for each of them, under its name. -/

/-- A declaration of schema language that introduces a name. -/
def Sdl.Declares (name block : String) : Prop :=
  ∃ described keyword body, keyword ∈ ["enum", "type", "input"] ∧
    block = Sdl.declaration described (keyword ++ " " ++ name) body

/-- Lines of a script module that export a name. -/
def ScriptModule.Declares (flavor : Flavor) (name : String) (lines : List String) : Prop :=
  ∃ body, lines = exported flavor name body

/-- Lines of the declaration module that export a name, with or without a comment. -/
def DeclarationModule.Declares (name : String) (lines : List String) : Prop :=
  ∃ commentary body, lines = comment commentary ++ declared name body

namespace Schema

/-- The names of all types, in the order in which they are written out. -/
def typeNames (schema : Schema) : List String :=
  schema.graph.enums.values.map (·.type.name) ++ schema.catalog.enums.values.map EnumType.name ++
    schema.graph.objects.map ObjectType.name ++ schema.catalog.inputs.values.map InputType.name

/-- The types are written out one after the other, and each of them declares its name. -/
structure Emits (schema : Schema) : Prop where
  sdl : ∃ blocks, schema.sdl = "\n\n".intercalate blocks ++ "\n" ∧
    List.Forall₂ Sdl.Declares schema.typeNames blocks
  script : ∀ flavor, ∃ blocks,
    ScriptModule.typeLines schema flavor = blocks.flatMap ("" :: ·) ∧
      List.Forall₂ (ScriptModule.Declares flavor) schema.typeNames blocks
  declarations : ∃ blocks, DeclarationModule.typeLines schema = blocks.flatMap ("" :: ·) ∧
    List.Forall₂ DeclarationModule.Declares schema.typeNames blocks

theorem forall₂_map {α β : Type} {declares : String → β → Prop} {name : α → String} {write : α → β}
    (each : ∀ item, declares (name item) (write item)) (items : List α) :
    List.Forall₂ declares (items.map name) (items.map write) := by
  rw [List.forall₂_map_left_iff, List.forall₂_map_right_iff, List.forall₂_same]
  exact fun item _ => each item

theorem forall₂_typeNames {β : Type} {declares : String → β → Prop} (schema : Schema)
    {enum : DocumentedEnum → β} {catalogEnum : EnumType → β} {object : ObjectType → β}
    {input : InputType → β} (enums : ∀ type, declares type.type.name (enum type))
    (catalogEnums : ∀ type, declares type.name (catalogEnum type))
    (objects : ∀ type, declares type.name (object type))
    (inputs : ∀ type, declares type.name (input type)) :
    List.Forall₂ declares schema.typeNames
      (schema.graph.enums.values.map enum ++ schema.catalog.enums.values.map catalogEnum ++
        schema.graph.objects.map object ++ schema.catalog.inputs.values.map input) :=
  List.rel_append
    (List.rel_append (List.rel_append (forall₂_map enums _) (forall₂_map catalogEnums _))
      (forall₂_map objects _))
    (forall₂_map inputs _)

theorem emits (schema : Schema) : schema.Emits where
  sdl := by
    refine ⟨_, rfl, schema.forall₂_typeNames (fun type => ?_) (fun type => ?_) (fun type => ?_)
      fun type => ?_⟩
    · exact ⟨_, "enum", _, by simp, rfl⟩
    · exact ⟨_, "enum", _, by simp, rfl⟩
    · exact ⟨_, "type", _, by simp, rfl⟩
    · exact ⟨_, "input", _, by simp, rfl⟩
  script flavor :=
    ⟨_, rfl, schema.forall₂_typeNames (fun _ => ⟨_, rfl⟩) (fun _ => ⟨_, rfl⟩) (fun _ => ⟨_, rfl⟩)
      fun _ => ⟨_, rfl⟩⟩
  declarations := by
    refine ⟨_, rfl, schema.forall₂_typeNames (fun type => ⟨_, _, rfl⟩) (fun type => ⟨[], _, rfl⟩)
      (fun type => ?_) fun type => ⟨[], _, rfl⟩⟩
    unfold DeclarationModule.objectLines DeclarationModule.objectComment
    split
    · exact ⟨_, _, rfl⟩
    · exact ⟨[], _, rfl⟩

end Schema

end GraphBinding
