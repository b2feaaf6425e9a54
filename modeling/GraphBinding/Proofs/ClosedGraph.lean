import GraphBinding.Proofs.Reachability

namespace GraphBinding

/-! The type graph of a consistent document is closed and has no orphans. -/

namespace Schema

/-- A scalar, an enum, or an input type. -/
def NamesInput (schema : Schema) (name : String) : Prop :=
  name ∈ nativeNames ∨ name ∈ schema.graph.enums.keys ∨ name ∈ schema.catalog.enums.keys ∨
    name ∈ schema.catalog.inputs.keys

/-- A scalar, an enum of the document, a model, or a page of one. -/
def NamesOutput (schema : Schema) (name : String) : Prop :=
  name ∈ nativeNames ∨ name ∈ schema.graph.enums.keys ∨ name ∈ schema.graph.models.keys ∨
    name ∈ schema.graph.listResults.keys

/-- Every type that is referred to is there and of the right kind, and every input type and enum
of the catalog can be used by requests. -/
structure Closed (schema : Schema) (document : Document) : Prop where
  inputFields : ∀ {key input}, schema.input? key = some input →
    ∀ entry ∈ input.fields.entries, schema.NamesInput entry.2.type.baseName
  arguments : ∀ object ∈ schema.graph.objects, ∀ field ∈ object.fields,
    ∀ entry ∈ field.arguments.entries, schema.NamesInput entry.2.baseName
  /-- Fields of unsupported kinds have the types that the document gives them. -/
  objectFields : ∀ object ∈ schema.graph.objects, ∀ field ∈ object.fields,
    schema.NamesOutput field.type.baseName ∨ ∃ model ∈ document.models, ∃ source ∈ model.fields,
      source.kind = .unsupported ∧
        Projection.outputField schema.settings model source = .ok field
  inputs : ∀ key ∈ schema.catalog.inputs.keys, schema.Reaches key
  enums : ∀ key ∈ schema.catalog.enums.keys, schema.Reaches key

theorem Aliased.namesInput {plain aliased : Schema} (shown : plain.Aliased aliased)
    {name : String} :
    aliased.NamesInput name ↔ plain.NamesInput name := by
  rw [NamesInput, NamesInput, shown.graph, shown.enums, shown.inputKeys]

theorem Aliased.closed {plain aliased : Schema} (shown : plain.Aliased aliased)
    {document : Document} (closed : plain.Closed document) : aliased.Closed document where
  inputFields := by
    intro key input found entry member
    obtain ⟨created, former, account⟩ := shown.created found
    obtain ⟨original, isField, same⟩ := account.refers.1 ⟨entry, member, rfl⟩
    rw [← same]
    exact shown.namesInput.2 (closed.inputFields former original isField)
  arguments := by
    rw [shown.graph]
    exact fun object isObject field isField entry member =>
      shown.namesInput.2 (closed.arguments object isObject field isField entry member)
  objectFields := by
    simp only [NamesOutput, shown.graph, shown.settings]
    exact closed.objectFields
  inputs key present := shown.reaches (closed.inputs key (shown.inputKeys.1 present))
  enums key present := shown.reaches (closed.enums key (shown.enums ▸ present))

end Schema

namespace Projection

variable {document : Document} {settings : Settings} {graph : TypeGraph} {after : Draft}

theorem baseName_pagingArguments {model : String} {entry : String × TypeRef}
    (member : entry ∈ (pagingArguments model).entries) :
    entry.2.baseName = whereInputName model ∨ entry.2.baseName = "Int" := by
  have declared := Entries.mem_of_mem_collapse member
  simp only [List.mem_cons, List.not_mem_nil, or_false] at declared
  rcases declared with rfl | rfl | rfl
  · exact .inl rfl
  · exact .inr rfl
  · exact .inr rfl

theorem accesses_of_assembled
    (assembled : Drafting.outcome assemble { document, settings } = (.ok graph, after)) :
    graph.Accesses document := by
  obtain ⟨objects, identified, -, queried, -⟩ := assemble_ok assembled
  intro model member
  obtain ⟨unique, many⟩ := (foldlM_addAccessors_ok queried).2.2 model.name
    (List.mem_map.2 ⟨model, member, rfl⟩)
  exact ⟨ObjectType.mem_fields_of_field? unique, ObjectType.mem_fields_of_field? many⟩

theorem namesInput_of_knows
    (assembled : Drafting.outcome assemble { document, settings } = (.ok graph, after))
    {name : String} (known : after.catalog.Knows document name) :
    (after.finish graph).NamesInput name :=
  known.imp_right (Or.imp_left (keys_of_assembled assembled _).2.2.2)

theorem namesInput_argument (consistent : document.Consistent)
    (assembled : Drafting.outcome assemble { document, settings } = (.ok graph, after))
    {field : OutputField} (makes : Makes document settings field) {entry : String × TypeRef}
    (member : entry ∈ field.arguments.entries) :
    (after.finish graph).NamesInput entry.2.baseName := by
  have serves := serves_of_assembled assembled
  have paging : ∀ {model : String}, model ∈ document.models.map Model.name →
      entry ∈ (pagingArguments model).entries →
        (after.finish graph).NamesInput entry.2.baseName := by
    intro model named declared
    rcases baseName_pagingArguments declared with filter | number
    · rw [filter]
      exact namesInput_of_knows assembled (serves.knows_whereInputName named)
    · rw [number]
      exact .inl (by decide)
  cases makes with
  | property ofDocument ofModel made =>
      rcases outputField_ok made with ⟨kind, -, paged⟩ | ⟨-, none, -⟩
      · rw [paged] at member
        exact paging (consistent.relations _ ofDocument _ ofModel kind) member
      · rw [none] at member
        cases member
  | page _ ofPage =>
      rw [fields_listResult] at ofPage
      simp only [List.mem_cons, List.not_mem_nil, or_false] at ofPage
      rcases ofPage with rfl | rfl | rfl <;> cases member
  | @accessor model _ ofDocument made =>
      rcases made with rfl | rfl
      · have declared := List.mem_singleton.1 (Entries.mem_of_mem_collapse member)
        rw [declared]
        exact namesInput_of_knows assembled (.inr (.inr (.inr
          (Catalog.mem_keys_of_find? (serves.find?_uniqueInput ofDocument)))))
      · exact paging (List.mem_map.2 ⟨model, ofDocument, rfl⟩) member

theorem namesOutput (consistent : document.Consistent)
    (assembled : Drafting.outcome assemble { document, settings } = (.ok graph, after))
    {field : OutputField} (makes : Makes document settings field) :
    (after.finish graph).NamesOutput field.type.baseName ∨ ∃ model ∈ document.models,
      ∃ source ∈ model.fields, source.kind = .unsupported ∧
        outputField settings model source = .ok field := by
  have keys := keys_of_assembled assembled
  cases makes with
  | property ofDocument ofModel made =>
      rename_i model source
      rcases outputField_ok made with ⟨kind, paged, -⟩ | ⟨named, -, -⟩
      · have related := consistent.relations _ ofDocument _ ofModel kind
        obtain ⟨target, isModel, same⟩ := List.mem_map.1 related
        rw [paged, ← same]
        exact .inl (.inr (.inr (.inr ((keys _).2.1.2 ⟨target, isModel, rfl⟩))))
      · cases kind : source.kind with
        | scalar => exact .inl (.inl (Field.graphName_of_scalar kind named))
        | enumeration =>
            rw [Field.graphName_of_ne_scalar (by simp [kind]) named]
            have known := consistent.enumerations _ ofDocument _ ofModel kind
            exact .inl (.inr (.inl ((keys _).2.2.2 known)))
        | relation =>
            rw [Field.graphName_of_ne_scalar (by simp [kind]) named]
            have known := consistent.relations _ ofDocument _ ofModel kind
            exact .inl (.inr (.inr (.inl ((keys _).1.2 known))))
        | unsupported => exact .inr ⟨model, ofDocument, source, ofModel, kind, made⟩
  | page ofDocument ofPage =>
      rename_i model
      rw [fields_listResult] at ofPage
      simp only [List.mem_cons, List.not_mem_nil, or_false] at ofPage
      rcases ofPage with rfl | rfl | rfl
      · exact .inl (.inr (.inr (.inl ((keys _).1.2 (List.mem_map.2 ⟨model, ofDocument, rfl⟩)))))
      · exact .inl (.inl (by decide))
      · exact .inl (.inl (by decide))
  | accessor ofDocument made =>
      rename_i model
      rcases made with rfl | rfl
      · exact .inl (.inr (.inr (.inl ((keys _).1.2 (List.mem_map.2 ⟨model, ofDocument, rfl⟩)))))
      · exact .inl (.inr (.inr (.inr ((keys _).2.1.2 ⟨model, ofDocument, rfl⟩))))

theorem closed_of_assembled (consistent : document.Consistent)
    (assembled : Drafting.outcome assemble { document, settings } = (.ok graph, after)) :
    (after.finish graph).Closed document := by
  have serves : (after.finish graph).catalog.Serves document settings.idProjection :=
    serves_of_assembled assembled
  have accesses : (after.finish graph).graph.Accesses document := accesses_of_assembled assembled
  have built := builds_assemble { document, settings }
  rw [assembled] at built
  have sameSettings : after.settings = settings := built.settings
  constructor
  · intro key input found entry member
    exact namesInput_of_knows assembled (serves.knows consistent found ⟨entry, member, rfl⟩)
  · intro object isObject field isField entry member
    exact namesInput_argument consistent assembled (makes_of_mem_objects assembled isObject isField)
      member
  · intro object isObject field isField
    change _ ∨ ∃ model ∈ document.models, ∃ source ∈ model.fields, source.kind = .unsupported ∧
      outputField after.settings model source = .ok field
    rw [sameSettings]
    exact namesOutput consistent assembled (makes_of_mem_objects assembled isObject isField)
  · intro key present
    exact Schema.reaches_of_mem_keys serves consistent accesses present
  · intro key present
    exact Schema.reaches_of_mem_enumKeys serves consistent accesses present

end Projection

/-- The type graph of a consistent document is closed and kind-correct, and no input type or
enum of its catalog is an orphan, whatever aliases are declared or follow. -/
theorem closed_of_projected {document : Document} {settings : Settings} {graph : TypeGraph}
    {draft : Draft} (consistent : document.Consistent)
    (projected : Draft.project { document, settings } = (.ok graph, draft))
    (renamings : List (String × String × String)) :
    ((draft.aliasAll renamings).finish graph).Closed document := by
  obtain ⟨middle, assembled, declared⟩ := Draft.assembled_of_projected projected
  have builds := Projection.builds_assemble { document, settings }
  rw [assembled] at builds
  have declares := Projection.renames_declareAliases settings.fieldAliases middle
  rw [declared] at declares
  have renames : middle.Renames (draft.aliasAll renamings) :=
    declares.trans (draft.renames_aliasAll renamings)
  exact (renames.aliased builds graph).closed (Projection.closed_of_assembled consistent assembled)

/-- Users with roles, and their posts, which two fields identify together. -/
def blog : Document where
  models :=
    [{ name := "User"
       fields :=
         [{ name := "id", kind := .scalar, type := "Int", isId := true },
           { name := "name", kind := .scalar, type := "String" },
           { name := "role", kind := .enumeration, type := "Role" },
           { name := "posts", kind := .relation, type := "Post", isList := true }] },
      { name := "Post"
        idFields := ["writer", "slug"]
        fields :=
          [{ name := "writer", kind := .scalar, type := "Int" },
            { name := "slug", kind := .scalar, type := "String" },
            { name := "author", kind := .relation, type := "User" },
            { name := "place", kind := .unsupported, type := "geometry" }] }]
  enums := [{ name := "Role", values := [{ name := "ADMIN" }, { name := "READER" }] }]

theorem closed_of_projected_blog :
    ∃ graph draft, Draft.project { document := blog, settings := {} } = (.ok graph, draft) ∧
      let schema := (draft.aliasAll [("PostWhereInput", "slug", "title")]).finish graph
      schema.catalog.inputs.keys =
          ["IntFilter", "NestedStringFilter", "StringFilter", "RoleFilter", "PostListFilter",
            "UserWhereInput", "UserWhereUniqueInput", "PostWhereInput",
            "PostWriterSlugCompoundUniqueInput", "PostWhereUniqueInput"] ∧
        schema.catalog.enums.keys = ["QueryMode"] ∧ schema.Closed blog := by
  have consistent : blog.Consistent := ⟨by decide, by decide, by decide +kernel, by decide⟩
  have checked : ∃ graph draft, Draft.project { document := blog, settings := {} } =
      (.ok graph, draft) ∧
        ((draft.aliasAll [("PostWhereInput", "slug", "title")]).finish graph).catalog.inputs.keys =
          ["IntFilter", "NestedStringFilter", "StringFilter", "RoleFilter", "PostListFilter",
            "UserWhereInput", "UserWhereUniqueInput", "PostWhereInput",
            "PostWriterSlugCompoundUniqueInput", "PostWhereUniqueInput"] ∧
        ((draft.aliasAll [("PostWhereInput", "slug", "title")]).finish graph).catalog.enums.keys =
          ["QueryMode"] :=
    Draft.projected_of_check (by decide +kernel)
  obtain ⟨graph, draft, projected, inputs, enums⟩ := checked
  exact ⟨graph, draft, projected, inputs, enums, closed_of_projected consistent projected _⟩

end GraphBinding
