import GraphBinding.Proofs.Emission
import GraphBinding.Proofs.ObjectNames
import GraphBinding.Proofs.Precedence

namespace GraphBinding

/-! Whether every type of a schema has a name of its own.

The names that a document gives to its models and enums are put beside names that are made of
them.  The latter never meet each other, since they end differently, but they may be names of
the document.
-/

namespace Document

variable (document : Document) (projection : IdProjection)

/-- The names that the document itself gives to types. -/
def typeNames : List String :=
  document.models.map Model.name ++ document.enums.map Enum.name

/-- The filter for texts is made, and is not mistaken for that of an enum. -/
def ComparesTexts : Prop :=
  (document.inputTypes projection).find? (·.name = "StringFilter") = some Filter.string

instance : Decidable (document.ComparesTexts projection) :=
  inferInstanceAs (Decidable ((document.inputTypes projection).find?
    (·.name = "StringFilter") = some Filter.string))

/-- The names that are made up: those of enums, objects and inputs. -/
def derivedNames : List String :=
  (if document.ComparesTexts projection then [queryModeName] else []) ++
    (document.models.map fun model => Projection.listResultName model.name) ++ [queryType] ++
    (document.inputTypes projection).map InputType.name ++
    (if document.ComparesTexts projection then [nestedStringFilterName] else [])

/-- No name of the document is made up as well, nor is the key of names a field of a model. -/
structure NamesFree : Prop where
  named : ∀ model ∈ document.models, ∀ field ∈ model.fields, field.name = nameKey → model.name = ""
  free : ∀ name ∈ document.typeNames, name ∉ document.derivedNames projection

variable {document projection}

theorem queryType_mem_derivedNames : queryType ∈ document.derivedNames projection := by
  simp [derivedNames]

theorem listResultName_mem_derivedNames {model : Model} (ofDocument : model ∈ document.models) :
    Projection.listResultName model.name ∈ document.derivedNames projection := by
  have listed : Projection.listResultName model.name ∈
      document.models.map fun model => Projection.listResultName model.name :=
    List.mem_map.2 ⟨model, ofDocument, rfl⟩
  simp only [derivedNames, List.mem_append, listed, or_true, true_or]

end Document

/-- Every type has a name of its own, and objects are found under theirs. -/
structure Schema.DeclaresOnce (schema : Schema) : Prop where
  distinct : schema.typeNames.Nodup
  found : ∀ object ∈ schema.graph.objects, schema.object? object.name = some object

section Catalogs

variable {document : Document} {projection : IdProjection} {catalog : Catalog} {name : String}

theorem Catalog.Serves.mem_inputKeys (serves : catalog.Serves document projection) :
    name ∈ catalog.inputs.keys ↔
      name ∈ (document.inputTypes projection).map InputType.name ∨
        name = nestedStringFilterName ∧
          catalog.inputs.find? "StringFilter" = some Filter.string := by
  constructor
  · intro present
    obtain ⟨type, found⟩ := find?_of_mem_keys present
    obtain rfl : type.name = name := serves.stems.named.inputs found
    have ofOwn : ∀ request ∈ document.requests projection, request.own? = some type →
        type.name ∈ (document.inputTypes projection).map InputType.name :=
      fun request member made =>
        List.mem_map.2 ⟨type, List.mem_filterMap.2 ⟨request, member, made⟩, rfl⟩
    cases serves.stems.inputs found with
    | finished member made => exact .inl (ofOwn _ member (Request.own?_of_finished made))
    | string member => exact .inl (ofOwn _ member rfl)
    | nested string => exact .inr ⟨rfl, string⟩
  · rintro (asked | ⟨rfl, string⟩)
    · obtain ⟨type, made, rfl⟩ := List.mem_map.1 asked
      obtain ⟨request, member, made⟩ := List.mem_filterMap.1 made
      exact serves.present member (by rw [← Request.map_name_own?, made, Option.map_some])
    · obtain ⟨native, -, -, present⟩ := serves.text_asked string
      exact present

theorem Catalog.Serves.mem_enumKeys (serves : catalog.Serves document projection) :
    name ∈ catalog.enums.keys ↔ name = queryModeName ∧
      catalog.inputs.find? "StringFilter" = some Filter.string := by
  constructor
  · intro present
    obtain ⟨isMode, asked | string⟩ := serves.stems.enums present
    · exact absurd (Document.mem_requests.1 asked) Document.not_asks_queryMode
    · exact ⟨isMode, string⟩
  · rintro ⟨rfl, string⟩
    obtain ⟨native, -, present, -⟩ := serves.text_asked string
    exact present

theorem Catalog.Serves.ending (serves : catalog.Serves document projection)
    (present : name ∈ catalog.inputs.keys) :
    ∃ stem, name = stem ++ "Filter" ∨ name = stem ++ "Input" := by
  have endsInput : ∀ stem middle : String, ∃ start,
      stem ++ (middle ++ "Input") = start ++ "Input" :=
    fun stem middle => ⟨stem ++ middle, String.append_assoc.symm⟩
  obtain ⟨type, found⟩ := find?_of_mem_keys present
  obtain rfl : type.name = name := serves.stems.named.inputs found
  cases serves.stems.inputs found with
  | string => exact ⟨"String", .inl rfl⟩
  | nested => exact ⟨"NestedString", .inl rfl⟩
  | finished member made =>
      cases Document.mem_requests.1 member with
      | field _ _ asked =>
          obtain ⟨stem, filter⟩ := Field.name_finished asked made
          exact ⟨stem, .inl filter⟩
      | whereInput =>
          cases made
          obtain ⟨start, same⟩ := endsInput _ "Where"
          exact ⟨start, .inr same⟩
      | compound _ asked =>
          obtain ⟨stem, compound⟩ := Model.name_compound asked made
          obtain ⟨start, same⟩ := endsInput stem "CompoundUnique"
          exact ⟨start, .inr (compound.trans same)⟩
      | uniqueInput =>
          cases made
          obtain ⟨start, same⟩ := endsInput _ "WhereUnique"
          exact ⟨start, .inr same⟩

end Catalogs

section Graphs

variable {document : Document} {settings : Settings} {graph : TypeGraph} {after : Draft}

namespace Projection

theorem listResultName_injective : Function.Injective listResultName :=
  fun _ _ same => (String.append_left_inj "List").1 same

theorem listResultName_ne_queryType (model : String) : listResultName model ≠ queryType := by
  have apart : listResultName model ≠ "" ++ "Query" := append_ne_append (by decide) model ""
  exact fun same => apart (same.trans (by decide))

theorem entries_models
    (assembled : Drafting.outcome assemble { document, settings } = (.ok graph, after)) :
    List.Forall₂ (fun model entry => entry.1 = model.name ∧ entry.2.name = model.objectName)
      document.models graph.models.entries :=
  (entries_modelObjects assembled).imp fun _ _ made => ⟨made.1, name_modelObject made.2⟩

theorem entries_listResults
    (assembled : Drafting.outcome assemble { document, settings } = (.ok graph, after)) :
    graph.listResults.entries =
      document.models.map fun model => (listResultName model.name, listResult model.name) := by
  obtain ⟨objects, identified, -, queried, -, pages, -⟩ := assemble_ok assembled
  have distinct : (document.models.map Model.name).Nodup := (foldlM_addAccessors_ok queried).1
  have keys : ((document.models.map fun model => listResult model.name).map fun page =>
      (page.name, page)) =
        document.models.map fun model => (listResultName model.name, listResult model.name) :=
    List.map_map
  rw [pages, Table.ofValues, keys]
  refine Table.entries_ofEntries ?_
  rw [Entries.keys, List.map_map]
  change (document.models.map (listResultName ∘ Model.name)).Nodup
  rw [← List.map_map]
  exact distinct.map listResultName_injective

theorem names_enums
    (assembled : Drafting.outcome assemble { document, settings } = (.ok graph, after))
    (distinct : (document.enums.map Enum.name).Nodup) :
    graph.enums.values.map (·.type.name) = document.enums.map Enum.name := by
  obtain ⟨objects, identified, -, -, -, -, enums, -⟩ := assemble_ok assembled
  have entries : graph.enums.entries = (document.enums.map (documentedEnum settings)).map
      fun enum => (enum.type.name, enum) := by
    rw [enums, Table.ofValues]
    refine Table.entries_ofEntries ?_
    rw [Entries.keys, List.map_map, List.map_map]
    exact distinct
  rw [Table.values, Entries.values, entries, List.map_map, List.map_map, List.map_map]
  rfl

theorem names_objects
    (assembled : Drafting.outcome assemble { document, settings } = (.ok graph, after)) :
    graph.objects.map ObjectType.name =
      document.models.map Model.objectName ++
        document.models.map (fun model => listResultName model.name) ++ [queryType] := by
  have models : graph.models.values.map ObjectType.name =
      document.models.map Model.objectName := by
    rw [Table.values, Entries.values, List.map_map]
    exact map_eq_of_forall₂ ((entries_models assembled).imp fun _ _ stands => stands.2)
  have pages : graph.listResults.values.map ObjectType.name =
      document.models.map fun model => listResultName model.name := by
    rw [Table.values, Entries.values, entries_listResults assembled, List.map_map, List.map_map]
    rfl
  obtain ⟨objects, identified, -, queried, -⟩ := assemble_ok assembled
  rw [TypeGraph.objects, List.map_append, List.map_append, models, pages, List.map_singleton,
    name_queryObject queried]

/-- Keys and names of the objects of models; an object may have lost its name. -/
theorem names_entries
    (assembled : Drafting.outcome assemble { document, settings } = (.ok graph, after)) :
    graph.models.entries.map (fun entry => (entry.1, entry.2.name)) =
      document.models.map fun model => (model.name, model.objectName) :=
  map_eq_of_forall₂ ((entries_models assembled).imp fun _ _ stands => Prod.ext stands.1 stands.2)

/-- An object without a name is found under none, if no other object has that name. -/
theorem key_of_nameless
    (assembled : Drafting.outcome assemble { document, settings } = (.ok graph, after))
    (distinct : (graph.objects.map ObjectType.name).Nodup) {key : String} {object : ObjectType}
    (isEntry : (key, object) ∈ graph.models.entries) (nameless : object.name = "")
    (found : graph.object? object.name = some object) : key = "" := by
  rw [nameless, TypeGraph.object?, if_neg (by decide)] at found
  rcases Option.or_eq_some_iff.1 found with ofModels | ⟨-, ofPages⟩
  · have other := (Table.find?_eq_some _ _ _).1 ofModels
    have apart : (graph.models.entries.map fun entry => entry.2.name).Nodup := by
      rw [TypeGraph.objects, List.map_append, List.map_append, Table.values, Entries.values,
        List.map_map] at distinct
      exact (List.nodup_append.1 (List.nodup_append.1 distinct).1).1
    exact congrArg Prod.fst (List.inj_on_of_nodup_map apart isEntry other rfl)
  · have page := (Table.find?_eq_some _ _ _).1 ofPages
    rw [entries_listResults assembled] at page
    obtain ⟨model, -, same⟩ := List.mem_map.1 page
    have ending : 't' ∈ (listResultName model.name).toList := by
      rw [listResultName, String.toList_append]
      exact List.mem_append_right _ (by decide)
    rw [(Prod.mk.inj same).1] at ending
    cases ending

/-- Where no name is made up that the document gives, objects are found under their names. -/
theorem object?_of_free
    (assembled : Drafting.outcome assemble { document, settings } = (.ok graph, after))
    (free : document.NamesFree settings.idProjection) {object : ObjectType}
    (member : object ∈ graph.objects) : graph.object? object.name = some object := by
  have pages := entries_listResults assembled
  have keys := fun name => (keys_of_assembled assembled name).1
  have notMadeUp : ∀ model ∈ document.models,
      model.name ∉ document.derivedNames settings.idProjection := fun model ofDocument =>
    free.free _ (List.mem_append_left _ (List.mem_map.2 ⟨model, ofDocument, rfl⟩))
  obtain ⟨objects, identified, -, queried, -⟩ := assemble_ok assembled
  rw [TypeGraph.objects, List.mem_append, List.mem_append, List.mem_singleton] at member
  rcases member with (ofModels | ofPages) | rfl
  · obtain ⟨⟨key, shown⟩, isEntry, same⟩ := List.mem_map.1 ofModels
    obtain rfl : shown = object := same
    have listed : (key, shown.name) ∈
        graph.models.entries.map fun entry => (entry.1, entry.2.name) :=
      List.mem_map.2 ⟨_, isEntry, rfl⟩
    rw [names_entries assembled] at listed
    obtain ⟨model, ofDocument, same⟩ := List.mem_map.1 listed
    obtain ⟨rfl, named⟩ := Prod.mk.inj same
    have kept : shown.name = model.name :=
      named.symm.trans (Model.objectName_eq (free.named model ofDocument))
    have noQuery : model.name ≠ queryType := by
      intro isQuery
      exact notMadeUp model ofDocument (isQuery ▸ Document.queryType_mem_derivedNames)
    rw [kept, TypeGraph.object?, if_neg noQuery, (Table.find?_eq_some _ _ _).2 isEntry,
      Option.some_or]
  · obtain ⟨⟨key, page⟩, isEntry, same⟩ := List.mem_map.1 ofPages
    obtain rfl : page = object := same
    have asListed := isEntry
    rw [pages] at asListed
    obtain ⟨model, ofDocument, same⟩ := List.mem_map.1 asListed
    obtain ⟨rfl, rfl⟩ := Prod.mk.inj same
    have noModel : graph.models.find? (listResultName model.name) = none := by
      rw [Table.find?_eq_none, keys]
      intro isModel
      obtain ⟨other, isOther, same⟩ := List.mem_map.1 isModel
      exact notMadeUp other isOther (same ▸ Document.listResultName_mem_derivedNames ofDocument)
    rw [name_listResult, TypeGraph.object?, if_neg (listResultName_ne_queryType _), noModel,
      Option.none_or, (Table.find?_eq_some _ _ _).2 isEntry]
  · rw [name_queryObject queried, TypeGraph.object?, if_pos rfl]

end Projection

end Graphs

namespace Catalog.Named

variable {catalog : Catalog}

theorem names_inputs (named : catalog.Named) :
    catalog.inputs.values.map InputType.name = catalog.inputs.keys := by
  rw [Table.values, Entries.values, List.map_map]
  exact List.map_congr_left fun entry member =>
    named.inputs ((Table.find?_eq_some _ _ _).2 member)

theorem names_enums (named : catalog.Named) :
    catalog.enums.values.map EnumType.name = catalog.enums.keys := by
  rw [Table.values, Entries.values, List.map_map]
  exact List.map_congr_left fun entry member =>
    named.enums ((Table.find?_eq_some _ _ _).2 member)

end Catalog.Named

theorem Draft.Renames.named {before after : Draft} (renames : before.Renames after)
    (named : before.catalog.Named) :
    after.catalog.Named ∧ after.catalog.inputs.keys = before.catalog.inputs.keys := by
  induction renames with
  | refl => exact ⟨named, rfl⟩
  | tail _ step ih =>
      obtain ⟨namedBefore, sameKeys⟩ := ih
      obtain ⟨inputType, field, exposed, renamed⟩ := step
      obtain ⟨type, found, -, -, rfl⟩ := aliasField_eq_ok.1 renamed
      refine ⟨⟨fun {name other} known => ?_, namedBefore.enums⟩, ?_⟩
      · rw [Catalog.redefine, Table.find?_insert] at known
        split at known
        · rename_i same
          cases known
          exact (namedBefore.inputs found).trans same
        · exact namedBefore.inputs known
      · rw [Catalog.redefine, Table.keys_insert, if_pos (Catalog.mem_keys_of_find? found), sameKeys]

section Schemas

variable {document : Document} {settings : Settings} {schema : Schema}

theorem Schema.typeNames_of_generate (generated : generate document settings = .ok schema)
    (distinct : document.typeNames.Nodup) :
    Drafting.outcome Projection.assemble { document, settings } =
        (.ok schema.graph, document.draft settings) ∧
      schema.typeNames = document.enums.map Enum.name ++
        (document.draft settings).catalog.enums.keys ++
        (document.models.map Model.objectName ++
          document.models.map (fun model => Projection.listResultName model.name) ++
          [queryType]) ++
        (document.draft settings).catalog.inputs.keys := by
  obtain ⟨graph, draft, projected, rfl⟩ := projected_of_generate generated
  obtain ⟨middle, assembled, declared⟩ := Draft.assembled_of_projected projected
  obtain rfl := Projection.draft_of_assembled assembled
  have renames : (document.draft settings).Renames draft := by
    have declares := Projection.renames_declareAliases settings.fieldAliases
      (document.draft settings)
    rwa [declared] at declares
  obtain ⟨named, keys⟩ := renames.named (Projection.serves_of_assembled assembled).stems.named
  have enums : draft.catalog.enums = (document.draft settings).catalog.enums := by
    rw [renames.others]
  refine ⟨assembled, ?_⟩
  change graph.enums.values.map (·.type.name) ++ draft.catalog.enums.values.map EnumType.name ++
    graph.objects.map ObjectType.name ++ draft.catalog.inputs.values.map InputType.name = _
  rw [Projection.names_enums assembled (List.nodup_append.1 distinct).2.1,
    Projection.names_objects assembled, named.names_enums, named.names_inputs, keys, enums]

/-- The names of the types that the catalog holds, of the lists and of the root, each once. -/
def Document.addedNames (document : Document) (settings : Settings) : List String :=
  (document.draft settings).catalog.enums.keys ++
    document.models.map (fun model => Projection.listResultName model.name) ++ [queryType] ++
    (document.draft settings).catalog.inputs.keys

theorem Document.mem_derivedNames
    (serves : (document.draft settings).catalog.Serves document settings.idProjection)
    {name : String} : name ∈ document.derivedNames settings.idProjection ↔
      name ∈ document.addedNames settings := by
  have notNested : "StringFilter" ≠ nestedStringFilterName := by decide
  have compares : document.ComparesTexts settings.idProjection ↔
      (document.draft settings).catalog.inputs.find? "StringFilter" = some Filter.string := by
    rw [ComparesTexts, document.find?_draft settings notNested]
  simp only [derivedNames, addedNames, List.mem_append, serves.mem_enumKeys, serves.mem_inputKeys,
    ← compares]
  by_cases texts : document.ComparesTexts settings.idProjection
  · simp only [texts, if_true, List.mem_singleton, and_true, or_assoc]
  · simp only [texts, if_false, List.not_mem_nil, and_false, false_or, or_false]

/-- Names that are made up end differently. -/
theorem Document.nodup_addedNames
    (serves : (document.draft settings).catalog.Serves document settings.idProjection) :
    (document.addedNames settings).Nodup := by
  have pages : (document.models.map fun model => Projection.listResultName model.name).Nodup := by
    change (document.models.map (Projection.listResultName ∘ Model.name)).Nodup
    rw [← List.map_map]
    exact serves.distinct.map Projection.listResultName_injective
  have query : queryType = "" ++ "Query" := by decide
  have mode : queryModeName = "" ++ "QueryMode" := by decide
  have pageNames : ∀ name ∈ document.models.map fun model => Projection.listResultName model.name,
      name ≠ queryType ∧ name ≠ queryModeName := by
    rintro name member
    obtain ⟨model, -, rfl⟩ := List.mem_map.1 member
    rw [mode]
    exact ⟨Projection.listResultName_ne_queryType _, append_ne_append (by decide) model.name ""⟩
  have inputNames : ∀ name ∈ (document.draft settings).catalog.inputs.keys,
      name ≠ queryType ∧ name ≠ queryModeName ∧
        name ∉ document.models.map fun model => Projection.listResultName model.name := by
    intro name present
    rw [query, mode, List.mem_map]
    obtain ⟨stem, rfl | rfl⟩ := serves.ending present
    · refine ⟨append_ne_append (by decide) stem "", append_ne_append (by decide) stem "", ?_⟩
      rintro ⟨model, -, same⟩
      exact append_ne_append (by decide) model.name stem same
    · refine ⟨append_ne_append (by decide) stem "", append_ne_append (by decide) stem "", ?_⟩
      rintro ⟨model, -, same⟩
      exact append_ne_append (by decide) model.name stem same
  simp only [addedNames, List.nodup_append, Table.nodup_keys, pages, List.nodup_singleton,
    List.mem_append, List.mem_singleton, serves.mem_enumKeys, true_and]
  refine ⟨⟨?_, ?_⟩, ?_⟩
  · rintro _ ⟨rfl, -⟩ page isPage rfl
    exact (pageNames _ isPage).2 rfl
  · rintro name (⟨rfl, -⟩ | isPage) _ rfl
    · decide
    · exact (pageNames name isPage).1
  · rintro name ((⟨rfl, -⟩ | isPage) | rfl) input isInput rfl
    · exact (inputNames _ isInput).2.1 rfl
    · exact (inputNames _ isInput).2.2 isPage
    · exact (inputNames _ isInput).1 rfl

/-- Names can only be repeated where the names of the document are among the others. -/
theorem Schema.nodup_typeNames (generated : generate document settings = .ok schema)
    (distinct : document.typeNames.Nodup) :
    schema.typeNames.Nodup ↔
      (document.models.map Model.objectName ++ document.enums.map Enum.name).Nodup ∧
        ∀ name ∈ document.models.map Model.objectName ++ document.enums.map Enum.name,
          name ∉ document.derivedNames settings.idProjection := by
  obtain ⟨assembled, names⟩ := typeNames_of_generate generated distinct
  have serves := Projection.serves_of_assembled assembled
  have sorted : schema.typeNames.Perm
      (document.models.map Model.objectName ++ document.enums.map Enum.name ++
        document.addedNames settings) := by
    rw [names, List.perm_iff_count]
    intro name
    simp only [Document.addedNames, List.count_append]
    omega
  rw [sorted.nodup_iff, List.nodup_append']
  simp only [Document.nodup_addedNames serves, true_and, List.disjoint_left,
    Document.mem_derivedNames serves]

/-- Every type has one declaration with a name of its own exactly if no name that the document
gives is one that is made up. -/
theorem declaresOnce_iff_namesFree (generated : Schema.generate document settings = .ok schema)
    (distinct : document.typeNames.Nodup) :
    schema.Emits ∧ (schema.DeclaresOnce ↔ document.NamesFree settings.idProjection) := by
  refine ⟨schema.emits, ?_⟩
  have nodup := Schema.nodup_typeNames generated distinct
  obtain ⟨assembled, names⟩ := Schema.typeNames_of_generate generated distinct
  constructor
  · rintro ⟨single, found⟩
    have named : ∀ model ∈ document.models, ∀ field ∈ model.fields, field.name = nameKey →
        model.name = "" := by
      intro model ofDocument field ofModel isKey
      have listed : (model.name, model.objectName) ∈
          document.models.map fun model => (model.name, model.objectName) :=
        List.mem_map.2 ⟨model, ofDocument, rfl⟩
      rw [← Projection.names_entries assembled] at listed
      obtain ⟨⟨key, object⟩, isEntry, same⟩ := List.mem_map.1 listed
      obtain ⟨rfl, lost⟩ := Prod.mk.inj same
      rw [Model.objectName, if_pos ⟨field, ofModel, isKey⟩] at lost
      have isObject : object ∈ schema.graph.objects :=
        List.mem_append_left _ (List.mem_append_left _ (List.mem_map.2 ⟨_, isEntry, rfl⟩))
      have objectNames := (List.nodup_append.1 (List.nodup_append.1 single).1).2.1
      exact Projection.key_of_nameless assembled objectNames isEntry lost (found object isObject)
    refine ⟨named, ?_⟩
    have free := (nodup.1 single).2
    rwa [List.map_congr_left fun model member => Model.objectName_eq (named model member)] at free
  · intro free
    refine ⟨nodup.2 ?_, fun object member => Projection.object?_of_free assembled free member⟩
    rw [List.map_congr_left fun model member => Model.objectName_eq (free.named model member)]
    exact ⟨distinct, free.free⟩

end Schemas

/-- Posts, and records of some other model. -/
def postsAnd (other : String) : Document where
  models :=
    [{ name := "Post"
       fields :=
         [{ name := "id", kind := .scalar, type := "Int", isId := true },
           { name := "title", kind := .scalar, type := "String" }] },
      { name := other
        fields := [{ name := "id", kind := .scalar, type := "Int", isId := true }] }]
  enums := [{ name := "Role", values := [{ name := "ADMIN" }] }]

theorem declaresOnce_postsAndAuthors :
    ∃ schema, Schema.generate (postsAnd "Author") {} = .ok schema ∧
      schema.typeNames = ["Role", "QueryMode", "Post", "Author", "PostList", "AuthorList", "Query",
        "IntFilter", "NestedStringFilter", "StringFilter", "PostWhereInput",
        "PostWhereUniqueInput", "AuthorWhereInput", "AuthorWhereUniqueInput"] ∧
      schema.DeclaresOnce := by
  have computed : ∃ schema, Schema.generate (postsAnd "Author") {} = .ok schema ∧
      schema.typeNames = ["Role", "QueryMode", "Post", "Author", "PostList", "AuthorList", "Query",
        "IntFilter", "NestedStringFilter", "StringFilter", "PostWhereInput",
        "PostWhereUniqueInput", "AuthorWhereInput", "AuthorWhereUniqueInput"] :=
    Schema.generated_of_check (by decide +kernel)
  obtain ⟨schema, generated, names⟩ := computed
  have free : (postsAnd "Author").NamesFree .int := ⟨by decide +kernel, by decide +kernel⟩
  exact ⟨schema, generated, names,
    (declaresOnce_iff_namesFree generated (by decide +kernel)).2.2 free⟩

/-- The pages of posts have the name of the other model, whose objects are found instead. -/
theorem postLists_declared_twice :
    ∃ schema, Schema.generate (postsAnd "PostList") {} = .ok schema ∧
      (postsAnd "PostList").typeNames.Nodup ∧ ¬ schema.typeNames.Nodup ∧
      ∃ object ∈ schema.graph.objects, schema.object? object.name ≠ some object :=
  Schema.generated_of_check (by decide +kernel)

end GraphBinding
