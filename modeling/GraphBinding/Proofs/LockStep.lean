import GraphBinding.Proofs.ClosedGraph
import GraphBinding.Proofs.DeclarationReading
import GraphBinding.Proofs.Precedence
import GraphBinding.Proofs.ScriptReading

namespace GraphBinding.Outline

/-! Script modules and the declaration module of one schema export the same. -/

theorem Dialect.reads_blocks {dialect : Dialect} (blank : dialect.Reads [] [""] [])
    {shown : String × List Member → List Member} {blocks : List (List String)}
    {outlines : List (String × List Member)}
    (each : List.Forall₂ (fun block outline => dialect.Reads [] block (shown outline))
      blocks outlines) :
    dialect.Reads [] (blocks.flatMap ("" :: ·)) (outlines.flatMap shown) := by
  induction each with
  | nil => exact .nil
  | cons head _ ih => exact (blank.append head).append ih

theorem forall₂_map {α : Type} {related : List String → String × List Member → Prop}
    {items : List α} {lines : α → List String} {outline : α → String × List Member}
    (each : ∀ item ∈ items, related (lines item) (outline item)) :
    List.Forall₂ related (items.map lines) (items.map outline) := by
  rw [List.forall₂_map_left_iff, List.forall₂_map_right_iff, List.forall₂_same]
  exact each

namespace Named

variable {schema : Schema}

/-- What is written of every type is related to the outline of the schema if each kind of type
is written so. -/
theorem forall₂_types (named : Named schema) {related : List String → String × List Member → Prop}
    {documented : DocumentedEnum → List String} {enum : EnumType → List String}
    {object : ObjectType → List String} {input : InputType → List String}
    (documenteds : ∀ type, IsName type.type.name → related (documented type) (ofEnum type.type))
    (enums : ∀ type, IsName type.name → related (enum type) (ofEnum type))
    (objects : ∀ type, IsName type.name → (∀ entry ∈ type.entries.entries, EntryNamed entry) →
      related (object type) (ofObject type))
    (inputs : ∀ type, IsName type.name →
      (∀ field ∈ type.fields.values, Typed (field.name, field.type)) →
      related (input type) (ofInput type)) :
    List.Forall₂ related
      (schema.graph.enums.values.map documented ++ schema.catalog.enums.values.map enum ++
        schema.graph.objects.map object ++ schema.catalog.inputs.values.map input)
      (outlines schema) := by
  have names := named.types
  simp only [Schema.typeNames, List.forall_mem_append, List.forall_mem_map] at names
  obtain ⟨⟨⟨isDocumented, isEnum⟩, isObject⟩, isInput⟩ := names
  apply List.rel_append (List.rel_append (List.rel_append ?_ ?_) ?_) ?_ <;>
    refine forall₂_map fun type mem => ?_
  · exact documenteds type (isDocumented type mem)
  · exact enums type (isEnum type mem)
  · exact objects type (isObject type mem) (named.objects type mem)
  · exact inputs type (isInput type mem) (named.inputs type mem)

theorem script_reads_types (named : Named schema) (flavor : Flavor) :
    (script flavor).Reads [] (ScriptModule.typeLines schema flavor)
      ((outlines schema).flatMap fun (name, members) => [.group name members]) := by
  have regular := script_regular flavor
  have writes := script_writes flavor
  refine Dialect.reads_blocks (script_reads_blank flavor) (named.forall₂_types ?_ ?_ ?_ ?_)
  · exact fun type isName => script_reads_exported flavor isName fun _ =>
      writes.reads_enum regular type.type
  · exact fun type isName => script_reads_exported flavor isName fun _ =>
      writes.reads_enum regular type
  · exact fun type isName entries => script_reads_exported flavor isName fun _ =>
      Dialect.Reads.flatMap fun entry mem => script_reads_entry flavor (entries entry mem)
  · exact fun type isName fields => script_reads_exported flavor isName fun _ =>
      writes.reads_input regular fields

open DeclarationModule in
theorem declaration_reads_types (named : Named schema) :
    declaration.Reads [] (typeLines schema) ((outlines schema).flatMap declaredPair) := by
  have regular := declaration_regular
  have writes := declaration_writes
  have enum (type : EnumType) (isName : IsName type.name) :
      declaration.Reads [] (enumLines type) (declaredPair (ofEnum type)) :=
    reads_declared isName fun _ => writes.reads_enum regular type
  refine Dialect.reads_blocks reads_blank (named.forall₂_types ?_ enum ?_ ?_)
  · intro type isName
    have commented : declaration.Reads []
        (comment (commentText schema.settings type.documentation (enumGuide type.type.name))) [] :=
      Dialect.reads_comment (commentText_unbroken _ _ (enumGuide_unbroken isName.isKey.unbroken))
    exact commented.append (enum type.type isName)
  · intro type isName entries
    have commented : declaration.Reads [] (objectComment schema.settings type) [] := by
      unfold objectComment
      split
      · exact Dialect.reads_comment
          (commentText_unbroken _ _ (modelGuide_unbroken isName.isKey.unbroken))
      · exact .nil
    exact commented.append (reads_declared isName fun _ => Dialect.Reads.flatMap fun entry mem =>
      declaration_reads_entry schema.settings isName (entries entry mem))
  · exact fun type isName fields => reads_declared isName fun _ => writes.reads_input regular fields

end Named

theorem bindings_groups (outlines : List (String × List Member)) :
    bindings (outlines.flatMap fun (name, members) => [.group name members]) =
      outlines.map fun (name, members) => ⟨name, some members⟩ := by
  induction outlines with
  | nil => rfl
  | cons outline outlines ih => exact congrArg (_ :: ·) ih

theorem declaredBindings_pairs (outlines : List (String × List Member)) :
    declaredBindings (outlines.flatMap declaredPair) =
      outlines.map fun (name, members) => ⟨name, some members⟩ := by
  induction outlines with
  | nil => rfl
  | cons outline outlines ih =>
    rw [List.flatMap_cons, declaredPair, List.cons_append, List.cons_append, declaredBindings,
      if_pos rfl]
    exact congrArg (_ :: ·) ih

theorem scriptExports_eq {schema : Schema} (named : Named schema) (flavor : Flavor) :
    scriptExports flavor (Source.text (schema.scriptModule flavor)) = exports schema := by
  have reads : (script flavor).Reads [] (schema.scriptModule flavor)
      (.value "$settings" (.other " = $runtime.changeSettings") ::
        (outlines schema).flatMap fun (name, members) => [.group name members]) :=
    ((script_reads_header flavor).append ((script_reads_handle flavor schema).append
      ((script_reads_blank flavor).append (script_reads_settings flavor)))).append
        (named.script_reads_types flavor)
  have blank : (script flavor).outside [] = .silent := by cases flavor <;> rfl
  rw [scriptExports, reads.members_text blank, bindings, bindings_groups]
  rfl

theorem declarationExports_eq {schema : Schema} (named : Named schema) :
    declarationExports (Source.text schema.declarationModule) = exports schema := by
  have reads : declaration.Reads [] schema.declarationModule
      (.group "Settings" settingsMembers ::
        .value "$settings" (.other "(settings: Settings) => void") ::
        (outlines schema).flatMap declaredPair) :=
    (declaration_reads_header.append reads_settings).append
      named.declaration_reads_types
  rw [declarationExports, reads.members_text rfl, declaredBindings, if_neg (by decide),
    declaredBindings_pairs]
  rfl

/-- Read as texts, either flavor of the script module binds what the declaration module declares,
in the same order and member by member, and that is the outline of the schema. -/
theorem exports_in_step {schema : Schema} (named : Named schema) (flavor : Flavor) :
    scriptExports flavor (Source.text (schema.scriptModule flavor)) =
        declarationExports (Source.text schema.declarationModule) ∧
      declarationExports (Source.text schema.declarationModule) = exports schema := by
  rw [scriptExports_eq named flavor, declarationExports_eq named]
  exact ⟨rfl, rfl⟩

theorem exports_in_step_blog :
    ∃ schema, Schema.generate blog {} = .ok schema ∧
      (exports schema).map Export.name =
        ["$settings", "Role", "QueryMode", "User", "Post", "UserList", "PostList", "Query",
          "IntFilter", "NestedStringFilter", "StringFilter", "RoleFilter", "PostListFilter",
          "UserWhereInput", "UserWhereUniqueInput", "PostWhereInput",
          "PostWriterSlugCompoundUniqueInput", "PostWhereUniqueInput"] ∧
      ∀ flavor, scriptExports flavor (Source.text (schema.scriptModule flavor)) =
          declarationExports (Source.text schema.declarationModule) ∧
        declarationExports (Source.text schema.declarationModule) = exports schema := by
  have computed : ∃ schema, Schema.generate blog {} = .ok schema ∧ Named schema ∧
      (exports schema).map Export.name =
        ["$settings", "Role", "QueryMode", "User", "Post", "UserList", "PostList", "Query",
          "IntFilter", "NestedStringFilter", "StringFilter", "RoleFilter", "PostListFilter",
          "UserWhereInput", "UserWhereUniqueInput", "PostWhereInput",
          "PostWriterSlugCompoundUniqueInput", "PostWhereUniqueInput"] :=
    Schema.generated_of_check (by decide +kernel)
  obtain ⟨schema, generated, named, names⟩ := computed
  exact ⟨schema, generated, names, exports_in_step named⟩

end GraphBinding.Outline
