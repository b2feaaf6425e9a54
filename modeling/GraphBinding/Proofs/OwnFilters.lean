import GraphBinding.Proofs.Generation
import GraphBinding.Proofs.Precedence
import GraphBinding.Proofs.Reachability

namespace GraphBinding

/-! Whether a field is filtered by its own filter.

Filters of different kinds are kept under names that are put together from the names of enums,
models and scalars.  Where two of them come to one name only one of the fields gets its own.
-/

namespace Catalog.Request

/-- The answer of an empty catalog. -/
def answer? : Request → Option InputType
  | .scalarFilter graphName native => (Catalog.empty.scalarFilter graphName native).1
  | .enumFilter enumName => some (Catalog.empty.enumFilter enumName).1
  | .relationListFilter model => some (Catalog.empty.relationListFilter model).1
  | .scalarListFilter element => some (Catalog.empty.scalarListFilter element).1
  | .compoundInput name fields => some (Catalog.empty.compoundInput name fields).1
  | .queryMode => none
  | .define type => some (Catalog.empty.define type).1

/-- The input types that are made in an empty catalog. -/
def builds : Request → List InputType
  | .scalarFilter "String" _ => [Filter.nestedString, Filter.string]
  | request => request.finished?.toList

theorem answer?_eq_own? (request : Request) : request.answer? = request.own? := by
  cases request with
  | scalarFilter graphName native =>
      by_cases text : graphName = "String"
      · subst text
        simp only [answer?, own?, Catalog.scalarFilter, scalarFilterName_string, if_true]
        rfl
      · rw [own?_of_ne_text (by simp [text]), finished?, if_neg text, answer?,
          Catalog.scalarFilter, if_neg text]
        cases Filter.scalarOperators? graphName native <;> rfl
  | _ => rfl

theorem builds_of_ne_text {request : Request}
    (noText : ∀ native, request ≠ .scalarFilter "String" native) :
    request.builds = request.finished?.toList := by
  unfold builds
  split
  · exact absurd rfl (noText _)
  · rfl

theorem values_fulfill_empty (request : Request) :
    (request.fulfill Catalog.empty).inputs.values = request.builds := by
  by_cases isText : ∃ native, request = .scalarFilter "String" native
  · obtain ⟨native, rfl⟩ := isText
    rw [fulfill_text]
    rfl
  · rw [builds_of_ne_text (not_exists.1 isText)]
    cases made : request.finished? with
    | some type =>
        rw [fulfill_finished made]
        rfl
    | none =>
        rw [inputs_fulfill_idle ((own?_of_ne_text (not_exists.1 isText)).trans made)]
        rfl

theorem mem_builds_of_own {request : Request} {type : InputType}
    (made : request.own? = some type) : type ∈ request.builds := by
  by_cases isText : ∃ native, request = .scalarFilter "String" native
  · obtain ⟨native, rfl⟩ := isText
    cases made
    exact List.mem_cons_of_mem _ List.mem_cons_self
  · rw [own?_of_ne_text (not_exists.1 isText)] at made
    rw [builds_of_ne_text (not_exists.1 isText)]
    exact Option.mem_toList.2 made

/-- Besides the answer only the part by which texts are negated is made. -/
theorem own_or_nested {request : Request} {type : InputType} (member : type ∈ request.builds) :
    request.own? = some type ∨
      type = Filter.nestedString ∧ request.own? = some Filter.string := by
  by_cases isText : ∃ native, request = .scalarFilter "String" native
  · obtain ⟨native, rfl⟩ := isText
    rcases List.mem_pair.1 member with rfl | rfl
    · exact .inr ⟨rfl, rfl⟩
    · exact .inl rfl
  · rw [builds_of_ne_text (not_exists.1 isText)] at member
    rw [own?_of_ne_text (not_exists.1 isText)]
    exact .inl (Option.mem_toList.1 member)

end Catalog.Request

/-- Fields for which a filter is made. -/
def Field.Filtered (field : Field) : Prop :=
  field.kind = .scalar ∨ field.kind = .enumeration ∨ field.kind = .relation ∧ field.isList

namespace Document

/-- The filters that are made for the fields of a document, each in a catalog of its own. -/
def filters (document : Document) (projection : IdProjection) : List InputType :=
  document.models.flatMap fun model => model.fields.flatMap fun field =>
    (field.request? projection).toList.flatMap Catalog.Request.builds

/-- No two of the filters differ in spite of one name. -/
def FiltersApart (document : Document) (projection : IdProjection) : Prop :=
  ∀ first ∈ document.filters projection, ∀ second ∈ document.filters projection,
    first.name = second.name → first = second

instance (document : Document) (projection : IdProjection) :
    Decidable (document.FiltersApart projection) :=
  inferInstanceAs (Decidable (∀ first ∈ document.filters projection,
    ∀ second ∈ document.filters projection, first.name = second.name → first = second))

end Document

/-- The field is filtered by what the request for it makes in an empty catalog. -/
def Schema.FiltersBy (schema : Schema) (projection : IdProjection) (model : Model)
    (field : Field) : Prop :=
  ∃ request own, field.request? projection = some request ∧ request.answer? = some own ∧
    schema.input? own.name = some own ∧
    (∀ part ∈ (request.fulfill Catalog.empty).inputs.values,
      schema.input? part.name = some part) ∧
    ((model.fields.map Field.name).Nodup →
      ∃ conditions, schema.input? (whereInputName model.name) = some conditions ∧
        (conditions.fields.find? field.name).map InputField.type = some (.named own.name))

section Catalogs

variable {document : Document} {projection : IdProjection} {model : Model} {field : Field}
  {request : Catalog.Request} {type : InputType}

theorem Document.mem_filters : type ∈ document.filters projection ↔
    ∃ model ∈ document.models, ∃ field ∈ model.fields, ∃ request,
      field.request? projection = some request ∧ type ∈ request.builds := by
  simp only [filters, List.mem_flatMap, Option.mem_toList]

theorem Field.filtered_of_request (asked : field.request? projection = some request) :
    field.Filtered := by
  unfold request? at asked
  unfold Filtered
  split at asked <;> simp_all

/-- A scalar that is known has a filter. -/
theorem Field.own_of_filtered (filtered : field.Filtered)
    (supported : field.kind = .scalar → Scalar.ofName? field.type ≠ none) :
    ∃ request own, field.request? projection = some request ∧ request.own? = some own := by
  have scalars : ∀ scalar isId,
      ∃ own, (Catalog.Request.scalarFilter (scalar.graphName isId projection) scalar).own? =
        some own := by
    intro scalar isId
    rw [← Option.isSome_iff_exists]
    cases scalar <;> cases isId <;> cases projection <;> rfl
  unfold request?
  cases kind : field.kind with
  | scalar =>
      obtain ⟨scalar, known⟩ := Option.ne_none_iff_exists'.1 (supported kind)
      cases isList : field.isList with
      | true =>
          exact ⟨.scalarListFilter (scalar.graphName field.isId projection), _,
            by simp [known], rfl⟩
      | false =>
          obtain ⟨own, made⟩ := scalars scalar field.isId
          exact ⟨_, own, by simp [known], made⟩
  | enumeration =>
      cases field.isList with
      | true => exact ⟨_, _, rfl, rfl⟩
      | false => exact ⟨_, _, rfl, rfl⟩
  | relation =>
      have isList : field.isList = true := by simpa [Filtered, kind] using filtered
      rw [isList]
      exact ⟨_, _, rfl, rfl⟩
  | unsupported => simp [Filtered, kind] at filtered

namespace Catalog.Serves

variable {catalog : Catalog} {name : String}

/-- Whatever has the name of a filter was made for a field. -/
theorem mem_filters (serves : catalog.Serves document projection)
    (found : catalog.inputs.find? name = some type) {stem : String}
    (filter : name = stem ++ "Filter") : type ∈ document.filters projection := by
  have named : type.name = stem ++ "Filter" := (serves.stems.named.inputs found).trans filter
  have text : ∀ native, Request.scalarFilter "String" native ∈ document.requests projection →
      Filter.string ∈ document.filters projection ∧
        Filter.nestedString ∈ document.filters projection := by
    intro native member
    obtain ⟨model, ofDocument, field, ofModel, asked⟩ := Document.field_of_scalarFilter member
    exact ⟨Document.mem_filters.2 ⟨model, ofDocument, field, ofModel, _, asked, .tail _ (.head _)⟩,
      Document.mem_filters.2 ⟨model, ofDocument, field, ofModel, _, asked, .head _⟩⟩
  cases serves.stems.inputs found with
  | string member => exact (text _ member).1
  | nested string =>
      obtain ⟨native, member, -⟩ := serves.text_asked string
      exact (text native member).2
  | finished member made =>
      cases Document.mem_requests.1 member with
      | field ofDocument ofModel asked =>
          exact Document.mem_filters.2 ⟨_, ofDocument, _, ofModel, _, asked,
            Request.mem_builds_of_own (Request.own?_of_finished made)⟩
      | whereInput =>
          cases made
          exact absurd named (whereInputName_ne_filter _ _)
      | compound _ asked =>
          obtain ⟨other, compound⟩ := Model.name_compound asked made
          exact absurd (named.symm.trans compound) (append_ne_append (by decide) stem other)
      | uniqueInput =>
          cases made
          exact absurd named (whereUniqueInputName_ne_filter _ _)

/-- If a filter that is made for a field is apart from all others of its name, it is the one in
the catalog. -/
theorem find?_own (serves : catalog.Serves document projection)
    (ofDocument : model ∈ document.models) (ofModel : field ∈ model.fields)
    (asked : field.request? projection = some request) (made : request.own? = some type)
    (apart : ∀ other ∈ document.filters projection, other.name = type.name → other = type) :
    catalog.inputs.find? type.name = some type := by
  have member := Document.mem_requests.2 (.field ofDocument ofModel asked)
  have answered : request.name? = some type.name := by
    rw [← Request.map_name_own?, made, Option.map_some]
  obtain ⟨other, found⟩ := find?_of_mem_keys (serves.present member answered)
  obtain ⟨stem, filter⟩ := Field.name_own asked made
  rw [found, apart other (serves.mem_filters found filter) (serves.stems.named.inputs found)]

theorem find?_builds (serves : catalog.Serves document projection)
    (apart : document.FiltersApart projection) (ofDocument : model ∈ document.models)
    (ofModel : field ∈ model.fields) (asked : field.request? projection = some request)
    (member : type ∈ request.builds) : catalog.inputs.find? type.name = some type := by
  have own : ∀ {own}, request.own? = some own → catalog.inputs.find? own.name = some own := by
    intro own made
    have ofOwn : own ∈ document.filters projection := Document.mem_filters.2
      ⟨model, ofDocument, field, ofModel, request, asked, Request.mem_builds_of_own made⟩
    exact serves.find?_own ofDocument ofModel asked made fun other isFilter same =>
      apart other isFilter own ofOwn same
  rcases Request.own_or_nested member with made | ⟨rfl, made⟩
  · exact own made
  · obtain ⟨native, -, -, present⟩ := serves.text_asked (own made)
    obtain ⟨other, found⟩ := find?_of_mem_keys present
    have isFilter := serves.mem_filters found (show _ = "NestedString" ++ "Filter" from rfl)
    have ofNested : Filter.nestedString ∈ document.filters projection := Document.mem_filters.2
      ⟨model, ofDocument, field, ofModel, request, asked, member⟩
    rw [apart other isFilter _ ofNested (serves.stems.named.inputs found)] at found
    exact found

end Catalog.Serves

theorem Model.find?_condition {name : String} (distinct : (model.fields.map Field.name).Nodup)
    (ofModel : field ∈ model.fields) (filtered : field.filterName? projection = some name) :
    ((model.whereInput projection).fields.find? field.name).map InputField.type =
      some (.named name) := by
  have condition : Filter.one field.name name ∈ model.conditions projection :=
    List.mem_filterMap.2 ⟨field, ofModel, by rw [Field.condition?, filtered]; rfl⟩
  have distinctConditions := (model.names_conditions projection).nodup distinct
  have found := Table.find?_ofValues_append [Filter.many "AND" (whereInputName model.name),
    Filter.many "OR" (whereInputName model.name), Filter.many "NOT" (whereInputName model.name)]
    distinctConditions condition
  exact congrArg (Option.map InputField.type) found

end Catalogs

/-- All fields are filtered by their own filters exactly if no two filters of one name differ. -/
theorem filtersBy_iff_apart {document : Document} {settings : Settings} {schema : Schema}
    (generated : Schema.generate document settings = .ok schema)
    (unaliased : ∀ entry ∈ settings.fieldAliases.entries, entry.2.entries = []) :
    (∀ model ∈ document.models, ∀ field ∈ model.fields, field.Filtered →
        schema.FiltersBy settings.idProjection model field) ↔
      document.FiltersApart settings.idProjection := by
  have accepted := Projection.accepted_of_generate generated
  obtain ⟨graph, assembled, rfl⟩ := Schema.assembled_of_generate generated unaliased
  have serves := Projection.serves_of_assembled assembled
  constructor
  · intro filtersBy first firstIn second secondIn same
    have stands : ∀ type ∈ document.filters settings.idProjection,
        (document.draft settings).catalog.inputs.find? type.name = some type := by
      intro type member
      obtain ⟨model, ofDocument, field, ofModel, request, asked, built⟩ :=
        Document.mem_filters.1 member
      obtain ⟨other, own, again, -, -, parts, -⟩ :=
        filtersBy model ofDocument field ofModel (Field.filtered_of_request asked)
      cases asked.symm.trans again
      rw [Catalog.Request.values_fulfill_empty] at parts
      exact parts type built
    have oneName := stands first firstIn
    rw [same, stands second secondIn] at oneName
    exact (Option.some.inj oneName).symm
  · intro apart model ofDocument field ofModel filtered
    obtain ⟨request, own, asked, made⟩ :=
      Field.own_of_filtered filtered (accepted.supported model ofDocument field ofModel)
    have stands := fun {type} => @Catalog.Serves.find?_builds document settings.idProjection model
      field request type _ serves apart ofDocument ofModel asked
    have answered : field.filterName? settings.idProjection = some own.name :=
      Field.filterName?_of_request asked (by rw [← Catalog.Request.map_name_own?, made]; rfl)
    refine ⟨request, own, asked, request.answer?_eq_own?.trans made,
      stands (Catalog.Request.mem_builds_of_own made), fun part member => ?_, fun distinct => ?_⟩
    · rw [Catalog.Request.values_fulfill_empty] at member
      exact stands member
    · exact ⟨_, serves.find?_whereInput ofDocument,
        Model.find?_condition distinct ofModel answered⟩

/-- Posts with tags of an enum, and with a relation to some other model. -/
def tagged (other : String) : Document where
  models :=
    [{ name := "Post"
       fields :=
         [{ name := "id", kind := .scalar, type := "Int", isId := true },
           { name := "title", kind := .scalar, type := "String" },
           { name := "tags", kind := .enumeration, type := "Tag", isList := true },
           { name := "others", kind := .relation, type := other, isList := true }] },
      { name := other
        fields := [{ name := "id", kind := .scalar, type := "Int", isId := true }] }]
  enums := [{ name := "Tag" }]

theorem filtersBy_tagged :
    ∃ schema, Schema.generate (tagged "Author") {} = .ok schema ∧
      ∀ model ∈ (tagged "Author").models, ∀ field ∈ model.fields, field.Filtered →
        schema.FiltersBy .int model field := by
  have generated : ∃ schema, Schema.generate (tagged "Author") {} = .ok schema :=
    refusal?_eq_none.1 (by decide +kernel)
  obtain ⟨schema, generated⟩ := generated
  have unaliased : ∀ entry ∈ ({} : Settings).fieldAliases.entries, entry.2.entries = [] := by
    simp [Table.empty]
  have apart : (tagged "Author").FiltersApart .int := by decide +kernel
  exact ⟨schema, generated, (filtersBy_iff_apart generated unaliased).2 apart⟩

/-- The relation is filtered as if it were a list of tags. -/
theorem tagged_relation_filtered_as_tags :
    ∃ schema, Schema.generate (tagged "TagScalar") {} = .ok schema ∧
      ((tagged "TagScalar").models.map Model.name ++
        (tagged "TagScalar").enums.map Enum.name).Nodup ∧
      (∀ name ∈ (tagged "TagScalar").models.map Model.name ++
        (tagged "TagScalar").enums.map Enum.name, name ∉ nativeNames) ∧
      (∀ model ∈ (tagged "TagScalar").models, (model.fields.map Field.name).Nodup) ∧
      ((schema.input? "PostWhereInput").bind (·.fields.find? "others")).map InputField.type =
        some (.named "TagScalarListFilter") ∧
      (Catalog.Request.relationListFilter "TagScalar").answer? =
        some (Filter.ofRelationList "TagScalar") ∧
      schema.input? "TagScalarListFilter" ≠ some (Filter.ofRelationList "TagScalar") :=
  Schema.generated_of_check (by decide +kernel)

end GraphBinding
