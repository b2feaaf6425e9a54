import GraphBinding.Proofs.DocumentTypes
import GraphBinding.Schema

namespace GraphBinding

/-! Which of several types of one name a catalog has: the one that was asked for first.

The only exception is the filter by which texts are negated, because it is built on behalf of
another type.
-/

namespace Catalog

variable {catalog : Catalog} {name : String}

/-- A type that is built enters under its name, unless there is one; the parts that are built
with it have other names. -/
theorem find?_obtain {build : Catalog → InputType × Catalog} {type : InputType}
    (built : (build catalog).1 = type)
    (parts : (build catalog).2.inputs.find? name = catalog.inputs.find? name) :
    (catalog.obtain type.name build).2.inputs.find? name =
      (catalog.inputs.find? name).or ((some type).filter (·.name = name)) := by
  cases old : catalog.inputs.find? type.name with
  | some former =>
      rw [obtain_of_find? _ old]
      by_cases same : type.name = name
      · subst same
        rw [old, Option.some_or]
      · simp [Option.filter, same]
  | none =>
      rw [obtain_of_fresh _ old, Table.find?_insert, built, parts]
      by_cases same : type.name = name
      · subst same
        simp [Option.filter, old]
      · simp [Option.filter, same]

theorem find?_buildStringFilter_of_ne (catalog : Catalog) (filter : String)
    (other : name ≠ nestedStringFilterName) :
    (buildStringFilter filter catalog).2.inputs.find? name = catalog.inputs.find? name := by
  have apart : Filter.nestedString.name ≠ name := fun same => other same.symm
  have nested := @find?_obtain catalog.queryMode.2 name
    (fun catalog => (Filter.nestedString, catalog)) Filter.nestedString rfl rfl
  rw [inputs_queryMode] at nested
  exact nested.trans (by simp [Option.filter, apart])

namespace Request

/-- The type that a request makes under the name of its answer. -/
def own? : Request → Option InputType
  | .scalarFilter "String" _ => some Filter.string
  | request => request.finished?

theorem own?_of_ne_text {request : Request}
    (noText : ∀ native, request ≠ .scalarFilter "String" native) :
    request.own? = request.finished? := by
  unfold own?
  split
  · exact absurd rfl (noText _)
  · rfl

theorem own?_of_finished {request : Request} {type : InputType}
    (made : request.finished? = some type) : request.own? = some type := by
  rw [own?_of_ne_text, made]
  rintro native rfl
  rw [finished?, if_pos rfl] at made
  cases made

theorem map_name_own? (request : Request) : request.own?.map InputType.name = request.name? := by
  by_cases isText : ∃ native, request = .scalarFilter "String" native
  · obtain ⟨native, rfl⟩ := isText
    rfl
  · rw [own?_of_ne_text (not_exists.1 isText), name?]
    exact not_exists.1 isText

theorem inputs_fulfill_idle {request : Request} (idle : request.own? = none) (catalog : Catalog) :
    (request.fulfill catalog).inputs = catalog.inputs := by
  have noText : ∀ native, request ≠ .scalarFilter "String" native := by
    rintro native rfl
    cases idle
  rw [own?_of_ne_text noText] at idle
  by_cases isMode : request = .queryMode
  · subst isMode
    exact catalog.inputs_queryMode
  · rw [fulfill_idle idle noText isMode]

end Request

/-- A request adds the type that it makes, unless there is one of that name. -/
theorem Named.find?_fulfill (named : catalog.Named) (request : Request)
    (other : name ≠ nestedStringFilterName) :
    (request.fulfill catalog).inputs.find? name =
      (catalog.inputs.find? name).or (request.own?.filter (·.name = name)) := by
  cases made : request.finished? with
  | some type =>
      rw [Request.fulfill_finished made, Request.own?_of_finished made]
      exact find?_obtain rfl rfl
  | none =>
      by_cases isText : ∃ native, request = .scalarFilter "String" native
      · obtain ⟨native, rfl⟩ := isText
        rw [Request.fulfill_text]
        exact find?_obtain named.buildStringFilter (catalog.find?_buildStringFilter_of_ne _ other)
      · have idle : request.own? = none := by
          rw [Request.own?_of_ne_text (not_exists.1 isText), made]
        rw [Request.inputs_fulfill_idle idle, idle]
        simp [Option.filter]

/-- So that of all types of a name the first one is there in the end. -/
theorem Named.find?_foldl_fulfill (named : catalog.Named) {requests : List Request}
    (keyed : ∀ request ∈ requests, request.Keyed) (other : name ≠ nestedStringFilterName) :
    (requests.foldl Request.fulfill catalog).inputs.find? name =
      (catalog.inputs.find? name).or
        ((requests.filterMap Request.own?).find? (·.name = name)) := by
  induction requests generalizing catalog with
  | nil => exact Option.or_none.symm
  | cons request rest ih =>
      have grows := request.fulfill_grows (keyed request (by simp)) catalog
      have later := fun request (member : request ∈ rest) => keyed request (by simp [member])
      rw [List.foldl_cons, ih (grows.named named) later, named.find?_fulfill request other,
        Option.or_assoc, Projection.filterMap_cons_toList, List.find?_append]
      cases made : request.own? with
      | none => rfl
      | some type => by_cases same : type.name = name <;> simp [Option.filter, same]

end Catalog

namespace Document

/-- The types that are made for a document under the names of the answers, first ones first. -/
def inputTypes (document : Document) (projection : IdProjection) : List InputType :=
  (document.requests projection).filterMap Catalog.Request.own?

theorem find?_draft (document : Document) (settings : Settings) {name : String}
    (other : name ≠ nestedStringFilterName) :
    (document.draft settings).catalog.inputs.find? name =
      (document.inputTypes settings.idProjection).find? (·.name = name) :=
  Catalog.Named.empty.find?_foldl_fulfill (fun _ member => keyed_requests member) other

end Document

section Names

variable {document : Document} {projection : IdProjection} {request : Catalog.Request}
  {type : InputType}

theorem Field.name_own {field : Field}
    (asked : field.request? projection = some request) (made : request.own? = some type) :
    ∃ stem, type.name = stem ++ "Filter" := by
  unfold Catalog.Request.own? at made
  split at made
  · cases made
    exact ⟨"String", rfl⟩
  · exact Field.name_finished asked made

theorem Model.compound?_eq_some {model : Model} {identifiers : List String}
    (asked : model.compound? projection identifiers = some request) :
    ∃ fields, request =
      .compoundInput (Projection.compoundInputName model.name identifiers) fields := by
  unfold compound? at asked
  split at asked
  · cases asked
  · cases asked
    exact ⟨_, rfl⟩

theorem Filter.mode_not_mem_scalarOperators {graphName : String} {native : Scalar}
    {operators : List InputField} (known : scalarOperators? graphName native = some operators) :
    "mode" ∉ operators.map InputField.name := by
  unfold scalarOperators? at known
  split at known
  · cases known
    split
    · decide
    · decide
  all_goals cases known
  all_goals decide

/-- Only the filter for texts has a mode. -/
theorem Field.mode_not_mem_finished {field : Field}
    (asked : field.request? projection = some request) (made : request.finished? = some type) :
    "mode" ∉ type.fields.keys := by
  have scalarList : ∀ element, "mode" ∉ (Filter.ofScalarList element).fields.keys := by
    intro element
    change "mode" ∉ ["equals", "has", "hasEvery", "hasSome", "isEmpty"]
    decide
  unfold request? at asked
  split at asked
  · obtain ⟨scalar, -, rfl⟩ := Option.map_eq_some_iff.1 asked
    dsimp only at made
    split at made
    · cases made
      exact scalarList _
    · rw [Catalog.Request.finished?] at made
      split at made
      · cases made
      · obtain ⟨operators, known, rfl⟩ := Option.map_eq_some_iff.1 made
        have others := Filter.mode_not_mem_scalarOperators known
        rw [Filter.negatable, InputType.ofFields, Table.mem_keys_ofValues]
        simpa [Filter.one] using others
  · cases asked
    cases made
    exact scalarList _
  · cases asked
    cases made
    change "mode" ∉ ["equals", "in", "notIn", "not"]
    decide
  · cases asked
    cases made
    change "mode" ∉ ["every", "some", "none"]
    decide
  · cases asked
  · cases asked

theorem Document.finished_ne_string (member : request ∈ document.requests projection)
    (made : request.finished? = some type) : type ≠ Filter.string := by
  rintro rfl
  cases mem_requests.1 member with
  | field _ _ asked => exact Field.mode_not_mem_finished asked made (by decide +kernel)
  | whereInput =>
      have same : whereInputName _ = "String" ++ "Filter" :=
        congrArg InputType.name (Option.some.inj made)
      exact whereInputName_ne_filter _ _ same
  | compound _ asked =>
      obtain ⟨stem, same⟩ := Model.name_compound asked made
      have apart : "String" ++ "Filter" ≠ stem ++ "CompoundUniqueInput" :=
        append_ne_append (by decide) "String" stem
      exact apart same
  | uniqueInput =>
      have same : whereUniqueInputName _ = "String" ++ "Filter" :=
        congrArg InputType.name (Option.some.inj made)
      exact whereUniqueInputName_ne_filter _ _ same

theorem Document.field_of_scalarFilter {graphName : String} {native : Scalar}
    (member : Catalog.Request.scalarFilter graphName native ∈ document.requests projection) :
    ∃ model ∈ document.models, ∃ field ∈ model.fields,
      field.request? projection = some (.scalarFilter graphName native) := by
  cases mem_requests.1 member with
  | field ofDocument ofModel asked => exact ⟨_, ofDocument, _, ofModel, asked⟩
  | compound _ asked =>
      obtain ⟨fields, same⟩ := Model.compound?_eq_some asked
      cases same

/-- The filter for texts comes with all of its parts. -/
theorem Catalog.Serves.text_asked {catalog : Catalog} (serves : catalog.Serves document projection)
    (string : catalog.inputs.find? "StringFilter" = some Filter.string) :
    ∃ native, Request.scalarFilter "String" native ∈ document.requests projection ∧
      queryModeName ∈ catalog.enums.keys ∧ nestedStringFilterName ∈ catalog.inputs.keys := by
  have origin := serves.stems.inputs string
  generalize isText : Filter.string = type at origin
  cases origin with
  | finished member made => exact absurd isText.symm (Document.finished_ne_string member made)
  | string member mode nested => exact ⟨_, member, mode, nested⟩
  | nested => exact absurd (congrArg InputType.name isText) (by decide)

end Names

namespace Schema

variable {document : Document} {settings : Settings} {schema : Schema}

theorem projected_of_generate (generated : generate document settings = .ok schema) :
    ∃ graph draft, Draft.project { document, settings } = (.ok graph, draft) ∧
      schema = draft.finish graph := by
  unfold generate at generated
  split at generated
  · rename_i projected
    cases generated
    exact ⟨_, _, projected, rfl⟩
  · cases generated

/-- Without aliases the types are those that the requests make. -/
theorem assembled_of_generate (generated : generate document settings = .ok schema)
    (unaliased : ∀ entry ∈ settings.fieldAliases.entries, entry.2.entries = []) :
    ∃ graph, Drafting.outcome Projection.assemble { document, settings } =
        (.ok graph, document.draft settings) ∧
      schema = (document.draft settings).finish graph := by
  obtain ⟨graph, draft, projected, rfl⟩ := projected_of_generate generated
  obtain ⟨middle, assembled, declared⟩ := Draft.assembled_of_projected projected
  rw [Projection.outcome_declareAliases_none unaliased] at declared
  cases declared
  have same := Projection.draft_of_assembled assembled
  exact ⟨graph, same ▸ assembled, by rw [same]⟩

theorem generated_of_check {holds : Schema → Prop} [∀ schema, Decidable (holds schema)]
    (checked : (generate document settings).toOption.any (fun schema => holds schema) = true) :
    ∃ schema, generate document settings = .ok schema ∧ holds schema := by
  cases generated : generate document settings with
  | error reason =>
      rw [generated] at checked
      cases checked
  | ok schema =>
      rw [generated] at checked
      exact ⟨schema, rfl, of_decide_eq_true checked⟩

end Schema

end GraphBinding
