import GraphBinding.Proofs.Requests

namespace GraphBinding

/-! The input types of an assembled document.

A type can be taken from the catalog by a name that another request has used before.  The names
of the `where` inputs end differently from all others, so that each model has its own.
-/

theorem append_ne_append {first second : String}
    (apart : ¬ first.toList <:+ second.toList ∧ ¬ second.toList <:+ first.toList)
    (left right : String) : left ++ first ≠ right ++ second := by
  intro same
  have ending : first.toList <:+ (right ++ second).toList := by
    rw [← same, String.toList_append]
    exact List.suffix_append _ _
  have other : second.toList <:+ (right ++ second).toList := by
    rw [String.toList_append]
    exact List.suffix_append _ _
  exact (List.suffix_or_suffix_of_suffix ending other).elim apart.1 apart.2

theorem whereInputName_ne_filter (model stem : String) : whereInputName model ≠ stem ++ "Filter" :=
  append_ne_append (by decide) model stem

theorem whereUniqueInputName_ne_filter (model stem : String) :
    whereUniqueInputName model ≠ stem ++ "Filter" :=
  append_ne_append (by decide) model stem

theorem whereInputName_ne_whereUniqueInputName (model other : String) :
    whereInputName model ≠ whereUniqueInputName other :=
  append_ne_append (by decide) model other

theorem whereInputName_ne_compound (model stem : String) :
    whereInputName model ≠ stem ++ "CompoundUniqueInput" :=
  append_ne_append (by decide) model stem

theorem whereUniqueInputName_ne_compound (model stem : String) :
    whereUniqueInputName model ≠ stem ++ "CompoundUniqueInput" :=
  append_ne_append (by decide) model stem

/-- Why a document asks for something. -/
inductive Document.Asks (document : Document) (projection : IdProjection) :
    Catalog.Request → Prop where
  | field {model : Model} {field : Field} {request : Catalog.Request}
      (ofDocument : model ∈ document.models) (ofModel : field ∈ model.fields)
      (asked : field.request? projection = some request) : Asks document projection request
  | whereInput {model : Model} (ofDocument : model ∈ document.models) :
      Asks document projection (.define (model.whereInput projection))
  | compound {model : Model} {request : Catalog.Request} (ofDocument : model ∈ document.models)
      (asked : model.compound? projection (model.identifiers?.getD []) = some request) :
      Asks document projection request
  | uniqueInput {model : Model} (ofDocument : model ∈ document.models) :
      Asks document projection
        (.define (model.uniqueInput projection (model.identifiers?.getD [])))

variable {document : Document} {projection : IdProjection}

theorem Document.mem_requests {request : Catalog.Request} :
    request ∈ document.requests projection ↔ document.Asks projection request := by
  simp only [requests, List.mem_flatMap, Model.requests, Model.whereRequests, Model.uniqueRequests,
    List.mem_append, List.mem_filterMap, List.mem_singleton, Option.mem_toList]
  constructor
  · rintro ⟨model, ofDocument, (⟨field, ofModel, asked⟩ | rfl) | (asked | rfl)⟩
    · exact .field ofDocument ofModel asked
    · exact .whereInput ofDocument
    · exact .compound ofDocument asked
    · exact .uniqueInput ofDocument
  · rintro (⟨ofDocument, ofModel, asked⟩ | ofDocument | ⟨ofDocument, asked⟩ | ofDocument)
    · exact ⟨_, ofDocument, .inl (.inl ⟨_, ofModel, asked⟩)⟩
    · exact ⟨_, ofDocument, .inl (.inr rfl)⟩
    · exact ⟨_, ofDocument, .inr (.inl asked)⟩
    · exact ⟨_, ofDocument, .inr (.inr rfl)⟩

/-- Texts are compared in several ways only where a filter for texts is made. -/
theorem Document.not_asks_queryMode : ¬ document.Asks projection .queryMode := by
  intro asks
  cases asks with
  | field _ _ asked =>
      unfold Field.request? at asked
      split at asked
      · obtain ⟨scalar, -, same⟩ := Option.map_eq_some_iff.1 asked
        dsimp only at same
        split at same <;> cases same
      all_goals cases asked
  | compound _ asked =>
      unfold Model.compound? at asked
      split at asked <;> cases asked

theorem Document.keyed_requests {request : Catalog.Request}
    (member : request ∈ document.requests projection) : request.Keyed := by
  obtain ⟨model, -, ofModel⟩ := List.mem_flatMap.1 member
  exact Model.keyed_requests ofModel

theorem scalarFilterName_filter (graphName : String) (native : Scalar) :
    ∃ stem, scalarFilterName graphName native = stem ++ "Filter" := by
  unfold scalarFilterName
  split
  · exact ⟨"IntID", by decide⟩
  · exact ⟨graphName, rfl⟩

theorem Field.name_finished {field : Field} {request : Catalog.Request} {type : InputType}
    (asked : field.request? projection = some request) (made : request.finished? = some type) :
    ∃ stem, type.name = stem ++ "Filter" := by
  have listFilter : ∀ model : String, ∃ stem, listFilterName model = stem ++ "Filter" := by
    intro model
    refine ⟨model ++ "List", ?_⟩
    rw [String.append_assoc]
    rfl
  have scalarListFilter : ∀ element : String, ∃ stem,
      scalarListFilterName element = stem ++ "Filter" := by
    intro element
    refine ⟨element ++ "ScalarList", ?_⟩
    rw [String.append_assoc]
    rfl
  unfold request? at asked
  split at asked
  · obtain ⟨scalar, -, rfl⟩ := Option.map_eq_some_iff.1 asked
    dsimp only at made
    split at made
    · cases made
      exact scalarListFilter _
    · rw [Catalog.Request.finished?] at made
      split at made
      · cases made
      · obtain ⟨operators, -, rfl⟩ := Option.map_eq_some_iff.1 made
        exact scalarFilterName_filter _ _
  · cases asked
    cases made
    exact scalarListFilter _
  · cases asked
    cases made
    exact ⟨field.type, rfl⟩
  · cases asked
    cases made
    exact listFilter _
  · cases asked
  · cases asked

theorem Model.name_compound {model : Model} {identifiers : List String} {request : Catalog.Request}
    {type : InputType} (asked : model.compound? projection identifiers = some request)
    (made : request.finished? = some type) : ∃ stem, type.name = stem ++ "CompoundUniqueInput" := by
  unfold compound? at asked
  split at asked
  · cases asked
  · cases asked
    cases made
    exact ⟨_, rfl⟩

/-- The catalog is the one that the requests of a document make. -/
structure Catalog.Serves (catalog : Catalog) (document : Document) (projection : IdProjection) :
    Prop where
  distinct : (document.models.map Model.name).Nodup
  stems : Catalog.Stems (document.requests projection) catalog
  present : ∀ {request name}, request ∈ document.requests projection →
    request.name? = some name → name ∈ catalog.inputs.keys

theorem Projection.serves_of_assembled {settings : Settings} {graph : TypeGraph} {after : Draft}
    (assembled : Drafting.outcome assemble { document, settings } = (.ok graph, after)) :
    after.catalog.Serves document settings.idProjection := by
  obtain ⟨objects, identified, -, queried, -⟩ := assemble_ok assembled
  refine ⟨(foldlM_addAccessors_ok queried).1, ?_, fun {request name} member answered => ?_⟩
  · rw [draft_of_assembled assembled]
    exact Catalog.Stems.empty.foldl_fulfill (fun _ member => member)
      (fun _ member => Document.keyed_requests member)
  · rw [draft_of_assembled assembled]
    exact Catalog.mem_keys_foldl_fulfill (fun _ member => Document.keyed_requests member) member
      answered _

namespace Catalog.Serves

variable {catalog : Catalog} {model : Model} {name : String} {type : InputType}

theorem eq_of_name (serves : catalog.Serves document projection) {first second : Model}
    (firstIn : first ∈ document.models) (secondIn : second ∈ document.models)
    (same : first.name = second.name) : first = second :=
  List.inj_on_of_nodup_map serves.distinct firstIn secondIn same

/-- Types that are no filters are inputs of models. -/
theorem ofModel (serves : catalog.Serves document projection)
    (found : catalog.inputs.find? name = some type) (noFilter : ∀ stem, name ≠ stem ++ "Filter") :
    ∃ model ∈ document.models, type = model.whereInput projection ∨
      type = model.uniqueInput projection (model.identifiers?.getD []) ∨
      ∃ stem, name = stem ++ "CompoundUniqueInput" := by
  have named : type.name = name := serves.stems.named.inputs found
  cases serves.stems.inputs found with
  | string => exact absurd named.symm (noFilter "String")
  | nested => exact absurd named.symm (noFilter "NestedString")
  | finished member made =>
      cases Document.mem_requests.1 member with
      | field ofDocument ofModel asked =>
          obtain ⟨stem, filter⟩ := Field.name_finished asked made
          exact absurd (named.symm.trans filter) (noFilter stem)
      | whereInput ofDocument =>
          cases made
          exact ⟨_, ofDocument, .inl rfl⟩
      | compound ofDocument asked =>
          obtain ⟨stem, compound⟩ := Model.name_compound asked made
          exact ⟨_, ofDocument, .inr (.inr ⟨stem, named.symm.trans compound⟩)⟩
      | uniqueInput ofDocument =>
          cases made
          exact ⟨_, ofDocument, .inr (.inl rfl)⟩

theorem find?_whereInput (serves : catalog.Serves document projection)
    (member : model ∈ document.models) :
    catalog.inputs.find? (whereInputName model.name) = some (model.whereInput projection) := by
  have asked : Catalog.Request.define (model.whereInput projection) ∈
      document.requests projection :=
    Document.mem_requests.2 (.whereInput member)
  obtain ⟨type, found⟩ := find?_of_mem_keys (serves.present asked rfl)
  have named : type.name = whereInputName model.name := serves.stems.named.inputs found
  obtain ⟨other, isModel, rfl | rfl | ⟨stem, compound⟩⟩ :=
    serves.ofModel found (whereInputName_ne_filter model.name)
  · have same : other.name = model.name := (String.append_left_inj _).1 named
    rwa [serves.eq_of_name isModel member same] at found
  · exact absurd named.symm (whereInputName_ne_whereUniqueInputName _ _)
  · exact absurd compound (whereInputName_ne_compound _ _)

theorem find?_uniqueInput (serves : catalog.Serves document projection)
    (member : model ∈ document.models) :
    catalog.inputs.find? (whereUniqueInputName model.name) =
      some (model.uniqueInput projection (model.identifiers?.getD [])) := by
  have asked : Catalog.Request.define (model.uniqueInput projection (model.identifiers?.getD [])) ∈
      document.requests projection :=
    Document.mem_requests.2 (.uniqueInput member)
  obtain ⟨type, found⟩ := find?_of_mem_keys (serves.present asked rfl)
  have named : type.name = whereUniqueInputName model.name := serves.stems.named.inputs found
  obtain ⟨other, isModel, rfl | rfl | ⟨stem, compound⟩⟩ :=
    serves.ofModel found (whereUniqueInputName_ne_filter model.name)
  · exact absurd named (whereInputName_ne_whereUniqueInputName _ _)
  · have same : other.name = model.name := (String.append_left_inj _).1 named
    rwa [serves.eq_of_name isModel member same] at found
  · exact absurd compound (whereUniqueInputName_ne_compound _ _)

end Catalog.Serves

end GraphBinding
