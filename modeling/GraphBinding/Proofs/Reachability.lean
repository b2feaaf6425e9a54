import GraphBinding.Proofs.References

namespace GraphBinding

/-! What requests can reach.

Every type was asked for by an input that is reached already: a filter by the `where` input of a
model, a compound by the input for unique records, and the parts of the filter for texts by that
filter.
-/

namespace Schema

/-- The input types to which the arguments of the query fields lead. -/
inductive Reaches (schema : Schema) : String → Prop where
  | argument {field : OutputField} {entry : String × TypeRef}
      (ofQuery : field ∈ schema.graph.query.fields) (declared : entry ∈ field.arguments.entries) :
      Reaches schema entry.2.baseName
  | field {type name : String} {input : InputType} (reached : Reaches schema type)
      (known : schema.input? type = some input) (refers : input.Refers name) : Reaches schema name

/-- The same types are reached under whatever names their fields have. -/
theorem Aliased.reaches {plain aliased : Schema} (shown : plain.Aliased aliased) {name : String}
    (reached : plain.Reaches name) : aliased.Reaches name := by
  induction reached with
  | argument ofQuery declared => exact .argument (shown.graph ▸ ofQuery) declared
  | field reached known refers ih =>
      obtain ⟨current, found, account⟩ := shown.known known
      exact .field ih found (account.refers.2 refers)

end Schema

namespace Field

variable {field : Field} {projection : IdProjection}

theorem filterName?_of_request {request : Catalog.Request} {name : String}
    (asked : field.request? projection = some request) (answered : request.name? = some name) :
    field.filterName? projection = some name := by
  unfold filterName?
  split
  · rename_i kind isList
    simp [request?, kind, isList] at asked
  · rw [asked]
    exact answered

theorem name_condition {condition : InputField}
    (made : field.condition? projection = some condition) :
    condition.name = field.name := by
  obtain ⟨name, -, rfl⟩ := Option.map_eq_some_iff.1 made
  rfl

end Field

theorem Model.names_conditions (model : Model) (projection : IdProjection) :
    ((model.conditions projection).map InputField.name).Sublist (model.fields.map Field.name) := by
  unfold conditions
  induction model.fields with
  | nil => exact List.Sublist.slnil
  | cons field rest ih =>
      cases made : field.condition? projection with
      | none =>
          simp only [List.filterMap_cons, made, List.map_cons]
          exact ih.cons _
      | some condition =>
          simp only [List.filterMap_cons, made, List.map_cons, Field.name_condition made]
          exact ih.cons_cons _

/-- No condition is lost in a `where` input. -/
theorem Model.refers_whereInput {model : Model} {projection : IdProjection} {field : Field}
    (distinct : (model.fields.map Field.name).Nodup) (ofModel : field ∈ model.fields)
    {name : String} (filtered : field.filterName? projection = some name) :
    (model.whereInput projection).Refers name := by
  have condition : Filter.one field.name name ∈ model.conditions projection :=
    List.mem_filterMap.2 ⟨field, ofModel, by rw [Field.condition?, filtered]; rfl⟩
  exact InputType.refers_ofFields_append _ ((model.names_conditions projection).nodup distinct)
    condition

theorem Model.refers_uniqueInput {model : Model} {projection : IdProjection}
    {identifiers : List String} {request : Catalog.Request} {name : String}
    (asked : model.compound? projection identifiers = some request)
    (answered : request.name? = some name) :
    (model.uniqueInput projection identifiers).Refers name := by
  have field : (model.keyField projection identifiers).type.baseName = name := by
    unfold compound? at asked
    unfold keyField
    split at asked
    · cases asked
    · rename_i several
      cases asked
      cases answered
      split
      · rename_i types
        exact absurd types (several _)
      · rfl
  rw [← field]
  exact InputType.refers_ofFields_append [] (by simp) (List.mem_singleton_self _)

/-- The query type has the accessors of all models. -/
def TypeGraph.Accesses (graph : TypeGraph) (document : Document) : Prop :=
  ∀ model ∈ document.models, Projection.findUniqueField model.name ∈ graph.query.fields ∧
    Projection.findManyField model.name ∈ graph.query.fields

namespace Schema

variable {schema : Schema} {document : Document} {projection : IdProjection} {model : Model}
  {name : String}

theorem reaches_whereInput (accesses : schema.graph.Accesses document)
    (member : model ∈ document.models) : schema.Reaches (whereInputName model.name) := by
  have declared : ("where", TypeRef.named (whereInputName model.name)) ∈
      (Projection.findManyField model.name).arguments.entries :=
    (Table.find?_eq_some _ _ _).1 rfl
  exact .argument (accesses model member).2 declared

theorem reaches_uniqueInput (accesses : schema.graph.Accesses document)
    (member : model ∈ document.models) : schema.Reaches (whereUniqueInputName model.name) := by
  have declared : ("where", (TypeRef.named (whereUniqueInputName model.name)).required) ∈
      (Projection.findUniqueField model.name).arguments.entries :=
    (Table.find?_eq_some _ _ _).1 rfl
  exact .argument (accesses model member).1 declared

/-- Whatever was asked for was asked for by something that is reached. -/
theorem reaches_answer (serves : schema.catalog.Serves document projection)
    (consistent : document.Consistent) (accesses : schema.graph.Accesses document)
    {request : Catalog.Request} (asks : document.Asks projection request)
    (answered : request.name? = some name) : schema.Reaches name := by
  cases asks with
  | field ofDocument ofModel asked =>
      exact .field (reaches_whereInput accesses ofDocument) (serves.find?_whereInput ofDocument)
        (Model.refers_whereInput (consistent.distinctFields _ ofDocument) ofModel
          (Field.filterName?_of_request asked answered))
  | whereInput ofDocument =>
      cases answered
      exact reaches_whereInput accesses ofDocument
  | compound ofDocument asked =>
      exact .field (reaches_uniqueInput accesses ofDocument) (serves.find?_uniqueInput ofDocument)
        (Model.refers_uniqueInput asked answered)
  | uniqueInput ofDocument =>
      cases answered
      exact reaches_uniqueInput accesses ofDocument

/-- A type that nothing asked for is a part of the filter for texts. -/
theorem reaches_or_nested (serves : schema.catalog.Serves document projection)
    (consistent : document.Consistent) (accesses : schema.graph.Accesses document)
    {type : InputType} (found : schema.catalog.inputs.find? name = some type) :
    schema.Reaches name ∨ name = nestedStringFilterName ∧
      schema.catalog.inputs.find? "StringFilter" = some Filter.string := by
  have named : type.name = name := serves.stems.named.inputs found
  cases serves.stems.inputs found with
  | finished member made =>
      have answered := Catalog.Request.name?_finished made
      rw [named] at answered
      have asks := Document.mem_requests.1 member
      exact .inl (reaches_answer serves consistent accesses asks answered)
  | string member =>
      subst named
      exact .inl (reaches_answer serves consistent accesses (Document.mem_requests.1 member) rfl)
  | nested string => exact .inr ⟨named.symm, string⟩

/-- The filter for texts is no part of itself, so it was asked for, and leads to its parts. -/
theorem reaches_string (serves : schema.catalog.Serves document projection)
    (consistent : document.Consistent) (accesses : schema.graph.Accesses document)
    (string : schema.catalog.inputs.find? "StringFilter" = some Filter.string)
    (refers : Filter.string.Refers name) : schema.Reaches name := by
  have reached : schema.Reaches "StringFilter" :=
    (reaches_or_nested serves consistent accesses string).resolve_right fun part =>
      absurd part.1 (by decide)
  exact .field reached string refers

theorem reaches_of_mem_keys (serves : schema.catalog.Serves document projection)
    (consistent : document.Consistent) (accesses : schema.graph.Accesses document)
    (present : name ∈ schema.catalog.inputs.keys) : schema.Reaches name := by
  obtain ⟨type, found⟩ := Catalog.find?_of_mem_keys present
  rcases reaches_or_nested serves consistent accesses found with reached | ⟨rfl, string⟩
  · exact reached
  · exact reaches_string serves consistent accesses string Filter.string_refers_nested

/-- The only enum of a catalog is a part of the filter for texts as well. -/
theorem reaches_of_mem_enumKeys (serves : schema.catalog.Serves document projection)
    (consistent : document.Consistent) (accesses : schema.graph.Accesses document)
    (present : name ∈ schema.catalog.enums.keys) : schema.Reaches name := by
  obtain ⟨rfl, asked | string⟩ := serves.stems.enums present
  · exact absurd (Document.mem_requests.1 asked) Document.not_asks_queryMode
  · exact reaches_string serves consistent accesses string Filter.string_refers_mode

end Schema

end GraphBinding
