import GraphBinding.Proofs.Objects
import GraphBinding.Proofs.Origins

namespace GraphBinding

/-! What a document asks of the catalog.

The inputs of a model are made while the catalog is asked for their parts.  Here stands what
each of them becomes and which requests are made for it, in their order, and that this is what
a drafting that succeeds has done.
-/

namespace Field

/-- What a field asks of the catalog. -/
def request? (field : Field) (projection : IdProjection) : Option Catalog.Request :=
  match field.kind, field.isList with
  | .scalar, isList =>
      (Scalar.ofName? field.type).map fun scalar =>
        let graphName := scalar.graphName field.isId projection
        if isList then .scalarListFilter graphName else .scalarFilter graphName scalar
  | .enumeration, true => some (.scalarListFilter field.type)
  | .enumeration, false => some (.enumFilter field.type)
  | .relation, true => some (.relationListFilter field.type)
  | .relation, false => none
  | .unsupported, _ => none

/-- The name of the input type that filters by a field. -/
def filterName? (field : Field) (projection : IdProjection) : Option String :=
  match field.kind, field.isList with
  | .relation, false => some (whereInputName field.type)
  | _, _ => (field.request? projection).bind Catalog.Request.name?

def condition? (field : Field) (projection : IdProjection) : Option InputField :=
  (field.filterName? projection).map (Filter.one field.name)

end Field

namespace Model

variable (model : Model) (projection : IdProjection)

def conditions : List InputField := model.fields.filterMap (·.condition? projection)

def whereInput : InputType :=
  let name := whereInputName model.name
  .ofFields name
    ([Filter.many "AND" name, Filter.many "OR" name, Filter.many "NOT" name] ++
      model.conditions projection)

def typedIdentifiers (identifiers : List String) : List (String × String) :=
  ((identifiers.mapM (Projection.identifierType model projection)).toOption).getD []

/-- The input for several identifiers together. -/
def compound? (identifiers : List String) : Option Catalog.Request :=
  match model.typedIdentifiers projection identifiers with
  | [_] => none
  | typed => some (.compoundInput (Projection.compoundInputName model.name identifiers)
      (typed.map fun (identifier, type) =>
        { name := identifier, type := (TypeRef.named type).required }))

/-- The field by which one record is found. -/
def keyField (identifiers : List String) : InputField :=
  match model.typedIdentifiers projection identifiers with
  | [(identifier, type)] => Filter.one identifier type
  | _ => Filter.one (compoundKeyName identifiers)
      (Projection.compoundInputName model.name identifiers)

def uniqueInput (identifiers : List String) : InputType :=
  .ofFields (whereUniqueInputName model.name) [model.keyField projection identifiers]

def whereRequests : List Catalog.Request :=
  model.fields.filterMap (·.request? projection) ++ [.define (model.whereInput projection)]

def uniqueRequests (identifiers : List String) : List Catalog.Request :=
  (model.compound? projection identifiers).toList ++
    [.define (model.uniqueInput projection identifiers)]

/-- All that a model asks for. -/
def requests : List Catalog.Request :=
  model.whereRequests projection ++ model.uniqueRequests projection (model.identifiers?.getD [])

end Model

/-- The draft after a list of requests. -/
def Draft.fulfill (draft : Draft) (requests : List Catalog.Request) : Draft :=
  { draft with catalog := requests.foldl Catalog.Request.fulfill draft.catalog }

theorem Draft.fulfill_append (draft : Draft) (first second : List Catalog.Request) :
    draft.fulfill (first ++ second) = (draft.fulfill first).fulfill second := by
  simp only [fulfill, List.foldl_append]

theorem Draft.named_fulfill {draft : Draft} (named : draft.catalog.Named)
    {requests : List Catalog.Request} (keyed : ∀ request ∈ requests, request.Keyed) :
    (draft.fulfill requests).catalog.Named :=
  (Catalog.foldl_fulfill_grows keyed _).named named

theorem Field.ofName?_of_scalar {field : Field} {model : Model} {scalar : Scalar}
    (known : field.scalar model = .ok scalar) : Scalar.ofName? field.type = some scalar := by
  unfold Field.scalar at known
  split at known
  · rename_i found
    cases known
    exact found
  · cases known

theorem Field.keyed_request {field : Field} {projection : IdProjection} {request : Catalog.Request}
    (asked : field.request? projection = some request) : request.Keyed := by
  unfold Field.request? at asked
  split at asked
  · obtain ⟨scalar, -, rfl⟩ := Option.map_eq_some_iff.1 asked
    dsimp only
    split <;> trivial
  all_goals cases asked
  all_goals trivial

theorem Model.keyed_requests {model : Model} {projection : IdProjection} {request : Catalog.Request}
    (member : request ∈ model.requests projection) : request.Keyed := by
  simp only [requests, whereRequests, uniqueRequests, List.mem_append, List.mem_filterMap,
    List.mem_singleton, Option.mem_toList] at member
  rcases member with (⟨field, -, asked⟩ | rfl) | (asked | rfl)
  · exact Field.keyed_request asked
  · exact InputType.keyed_ofFields _ _
  · unfold compound? at asked
    split at asked
    · cases asked
    · cases asked
      trivial
  · exact InputType.keyed_ofFields _ _

namespace Projection

open Drafting

variable {model : Model} {field : Field} {draft after : Draft}

theorem outcome_withCatalog_ok {α : Type} {ask : Catalog → α × Catalog} (request : Catalog.Request)
    (asked : (ask draft.catalog).2 = request.fulfill draft.catalog) {answer : α}
    (done : outcome (withCatalog ask) draft = (.ok answer, after)) :
    answer = (ask draft.catalog).1 ∧ after = draft.fulfill [request] := by
  rw [outcome_withCatalog, asked] at done
  cases done
  exact ⟨rfl, rfl⟩

theorem outcome_answerName {ask : Catalog → InputType × Catalog} (request : Catalog.Request)
    (asked : (ask draft.catalog).2 = request.fulfill draft.catalog) {name : String}
    (named : (ask draft.catalog).1.name = name) {answer : Option String}
    (done : outcome (withCatalog ask >>= fun filter => pure (some filter.name)) draft =
      (.ok answer, after)) :
    answer = some name ∧ after = draft.fulfill [request] := by
  obtain ⟨filter, middle, asking, done⟩ := outcome_bind_ok done
  obtain ⟨rfl, rfl⟩ := outcome_withCatalog_ok request asked asking
  cases done
  exact ⟨congrArg some named, rfl⟩

theorem outcome_filterName? (named : draft.catalog.Named) {answer : Option String}
    (done : outcome (filterName? model field) draft = (.ok answer, after)) :
    answer = field.filterName? draft.settings.idProjection ∧
      after = draft.fulfill (field.request? draft.settings.idProjection).toList := by
  unfold filterName? at done
  unfold Field.filterName? Field.request?
  cases kind : field.kind with
  | scalar =>
      simp only [kind] at done ⊢
      obtain ⟨scalar, _, read, done⟩ := outcome_bind_ok done
      rw [outcome_ofExcept] at read
      obtain ⟨known, rfl⟩ := Prod.mk.inj read
      obtain ⟨_, _, got, done⟩ := outcome_bind_ok done
      cases got
      rw [Field.ofName?_of_scalar known]
      cases isList : field.isList with
      | true =>
          simp only [isList, if_true, Option.map_some] at done ⊢
          exact outcome_answerName (.scalarListFilter _) rfl
            (named.obtain_finished (Filter.ofScalarList _)) done
      | false =>
          simp only [isList, Bool.false_eq_true, if_false, Option.map_some] at done ⊢
          obtain ⟨filter?, middle, asking, done⟩ := outcome_bind_ok done
          obtain ⟨rfl, rfl⟩ := outcome_withCatalog_ok (.scalarFilter _ scalar) rfl asking
          cases done
          exact ⟨named.scalarFilter _ _, rfl⟩
  | enumeration =>
      cases isList : field.isList with
      | true =>
          simp only [kind, isList] at done ⊢
          exact outcome_answerName (.scalarListFilter _) rfl
            (named.obtain_finished (Filter.ofScalarList _)) done
      | false =>
          simp only [kind, isList] at done ⊢
          exact outcome_answerName (.enumFilter _) rfl
            (named.obtain_finished (Filter.ofEnum _)) done
  | relation =>
      cases isList : field.isList with
      | true =>
          simp only [kind, isList] at done ⊢
          exact outcome_answerName (.relationListFilter _) rfl
            (named.obtain_finished (Filter.ofRelationList _)) done
      | false =>
          simp only [kind, isList] at done ⊢
          cases done
          exact ⟨rfl, rfl⟩
  | unsupported =>
      simp only [kind] at done ⊢
      cases done
      exact ⟨rfl, rfl⟩

theorem filterMap_cons_toList {α β : Type} (step : α → Option β) (item : α) (rest : List α) :
    (item :: rest).filterMap step = (step item).toList ++ rest.filterMap step := by
  cases made : step item <;> simp [made]

theorem outcome_conditions (fields : List Field) (named : draft.catalog.Named)
    {answers : List (Option InputField)}
    (done : outcome (fields.mapM (fieldCondition? model)) draft = (.ok answers, after)) :
    answers.filterMap id = fields.filterMap (·.condition? draft.settings.idProjection) ∧
      after = draft.fulfill (fields.filterMap (·.request? draft.settings.idProjection)) := by
  induction fields generalizing draft answers with
  | nil =>
      cases done
      exact ⟨rfl, rfl⟩
  | cons field rest ih =>
      rw [List.mapM_cons] at done
      obtain ⟨first, middle, conditioned, done⟩ := outcome_bind_ok done
      obtain ⟨others, last, traversed, done⟩ := outcome_bind_ok done
      cases done
      obtain ⟨name?, _, filtered, conditioned⟩ := outcome_bind_ok conditioned
      cases conditioned
      obtain ⟨rfl, rfl⟩ := outcome_filterName? named filtered
      have keyed : ∀ request ∈ (field.request? draft.settings.idProjection).toList, request.Keyed :=
        fun request member => Field.keyed_request (Option.mem_toList.1 member)
      obtain ⟨conditions, ended⟩ := ih (Draft.named_fulfill named keyed) traversed
      rw [filterMap_cons_toList, filterMap_cons_toList, filterMap_cons_toList, conditions, ended,
        Draft.fulfill_append]
      exact ⟨rfl, rfl⟩

theorem outcome_define {name : String} {fields : List InputField}
    (done : outcome (withCatalog (·.define (.ofFields name fields)) >>= fun _ => pure PUnit.unit)
      draft = (.ok PUnit.unit, after)) :
    after = draft.fulfill [.define (.ofFields name fields)] := by
  obtain ⟨_, _, asking, done⟩ := outcome_bind_ok done
  cases done
  exact (outcome_withCatalog_ok (.define (.ofFields name fields)) rfl asking).2

theorem outcome_defineWhereInput (named : draft.catalog.Named)
    (done : outcome (defineWhereInput model) draft = (.ok ⟨⟩, after)) :
    after = draft.fulfill (model.whereRequests draft.settings.idProjection) := by
  obtain ⟨answers, middle, conditioned, done⟩ := outcome_bind_ok done
  obtain ⟨conditions, rfl⟩ := outcome_conditions model.fields named conditioned
  rw [conditions] at done
  rw [outcome_define done, Model.whereRequests, Draft.fulfill_append]
  rfl

/-- The input for several identifiers comes before the one that refers to it. -/
theorem outcome_defineCompound (named : draft.catalog.Named) {name compound key : String}
    {fields : List InputField}
    (done : outcome (withCatalog (·.compoundInput compound fields) >>= fun answer =>
        pure (Filter.one key answer.name) >>= fun field =>
          withCatalog (·.define (.ofFields name [field])) >>= fun _ => pure PUnit.unit)
      draft = (.ok PUnit.unit, after)) :
    after = draft.fulfill
      [.compoundInput compound fields, .define (.ofFields name [Filter.one key compound])] := by
  obtain ⟨answer, middle, asking, done⟩ := outcome_bind_ok done
  obtain ⟨rfl, rfl⟩ := outcome_withCatalog_ok (.compoundInput compound fields) rfl asking
  have ended := outcome_define done
  rwa [named.compoundInput] at ended

/-- The draft must know the identifiers of the model. -/
theorem outcome_defineWhereUniqueInput {identifiers : List String}
    (known : draft.identifiers.find? model.name = some identifiers)
    (named : draft.catalog.Named)
    (done : outcome (defineWhereUniqueInput model) draft = (.ok ⟨⟩, after)) :
    after = draft.fulfill (model.uniqueRequests draft.settings.idProjection identifiers) := by
  obtain ⟨_, _, got, done⟩ := outcome_bind_ok done
  cases got
  obtain ⟨typed, _, read, done⟩ := outcome_bind_ok done
  rw [outcome_ofExcept, known, Option.getD_some] at read
  obtain ⟨typing, rfl⟩ := Prod.mk.inj read
  have types : model.typedIdentifiers draft.settings.idProjection identifiers = typed := by
    rw [Model.typedIdentifiers, typing]
    rfl
  rw [known, Option.getD_some] at done
  rw [Model.uniqueRequests, Model.compound?, Model.uniqueInput, Model.keyField, types]
  rcases typed with _ | ⟨⟨identifier, type⟩, _ | ⟨second, rest⟩⟩
  · exact outcome_defineCompound named done
  · exact outcome_define done
  · exact outcome_defineCompound named done

theorem outcome_identify (done : outcome (identify model) draft = (.ok ⟨⟩, after)) :
    ∃ identifiers, model.identifiers? = some identifiers ∧
      after = { draft with identifiers := draft.identifiers.insert model.name identifiers } := by
  obtain ⟨identifiers, _, read, done⟩ := outcome_bind_ok done
  rw [outcome_ofExcept] at read
  obtain ⟨known, rfl⟩ := Prod.mk.inj read
  cases done
  unfold Model.identifiers at known
  split at known
  · rename_i found
    cases known
    exact ⟨identifiers, found, rfl⟩
  · cases known

theorem outcome_forM_identify {models : List Model}
    (done : outcome (models.forM identify) draft = (.ok ⟨⟩, after)) :
    after = { draft with
      identifiers := (models.map fun model => (model.name, model.identifiers?.getD [])).foldl
        (fun written entry => written.insert entry.1 entry.2) draft.identifiers } := by
  induction models generalizing draft with
  | nil =>
      cases done
      rfl
  | cons model rest ih =>
      rw [outcome_forM_cons] at done
      obtain ⟨⟨⟩, middle, first, done⟩ := outcome_bind_ok done
      obtain ⟨identifiers, known, rfl⟩ := outcome_identify first
      rw [ih done, List.map_cons, List.foldl_cons, known, Option.getD_some]

/-- The inputs of a model are made by its requests, in two parts. -/
theorem outcome_defineInputs
    (written : draft.identifiers.find? model.name = some (model.identifiers?.getD []))
    (named : draft.catalog.Named) (done : outcome (defineInputs model) draft = (.ok ⟨⟩, after)) :
    after = draft.fulfill (model.requests draft.settings.idProjection) := by
  obtain ⟨⟨⟩, half, filtered, done⟩ := outcome_bind_ok done
  obtain rfl := outcome_defineWhereInput named filtered
  have keyed : ∀ request ∈ model.whereRequests draft.settings.idProjection, request.Keyed :=
    fun _ member => Model.keyed_requests (List.mem_append_left _ member)
  have namedHalf := Draft.named_fulfill named keyed
  have writtenHalf : (draft.fulfill
      (model.whereRequests draft.settings.idProjection)).identifiers.find? model.name =
        some (model.identifiers?.getD []) := written
  rw [outcome_defineWhereUniqueInput writtenHalf namedHalf done, Model.requests,
    Draft.fulfill_append]
  rfl

theorem outcome_forM_defineInputs {models : List Model} (named : draft.catalog.Named)
    (written : ∀ model ∈ models,
      draft.identifiers.find? model.name = some (model.identifiers?.getD []))
    (done : outcome (models.forM defineInputs) draft = (.ok ⟨⟩, after)) :
    after = draft.fulfill (models.flatMap (·.requests draft.settings.idProjection)) := by
  induction models generalizing draft with
  | nil =>
      cases done
      rfl
  | cons model rest ih =>
      rw [outcome_forM_cons] at done
      obtain ⟨⟨⟩, middle, first, done⟩ := outcome_bind_ok done
      obtain rfl := outcome_defineInputs (written model (by simp)) named first
      have keyed : ∀ request ∈ model.requests draft.settings.idProjection, request.Keyed :=
        fun _ member => Model.keyed_requests member
      have namedNext := Draft.named_fulfill named keyed
      have writtenNext := fun other (member : other ∈ rest) => written other (by simp [member])
      rw [ih namedNext writtenNext done, List.flatMap_cons, Draft.fulfill_append]
      rfl

end Projection

namespace Document

/-- All that a document asks of the catalog. -/
def requests (document : Document) (projection : IdProjection) : List Catalog.Request :=
  document.models.flatMap (·.requests projection)

/-- The identifiers of the models.  Of several models of one name the last counts. -/
def identifiers (document : Document) : Table (List String) :=
  .ofEntries (document.models.map fun model => (model.name, model.identifiers?.getD []))

theorem find?_identifiers {document : Document} (distinct : (document.models.map Model.name).Nodup)
    {model : Model} (member : model ∈ document.models) :
    document.identifiers.find? model.name = some (model.identifiers?.getD []) := by
  refine Table.find?_ofEntries ?_ (List.mem_map.2 ⟨model, member, rfl⟩)
  rwa [Entries.keys, List.map_map]

/-- All types of a document under native names. -/
def draft (document : Document) (settings : Settings) : Draft where
  document := document
  settings := settings
  catalog := (document.requests settings.idProjection).foldl Catalog.Request.fulfill {}
  identifiers := document.identifiers

end Document

namespace Projection

open Drafting

theorem identified_ok {document : Document} {settings : Settings} {after : Draft}
    (identities : outcome (document.models.forM identify) { document, settings } =
      (.ok ⟨⟩, after)) :
    after = { document, settings, identifiers := document.identifiers } := by
  rw [outcome_forM_identify identities, Document.identifiers, Table.ofEntries_eq_foldl]

/-- An assembled document has the types that its requests make of an empty catalog. -/
theorem draft_of_assembled {document : Document} {settings : Settings} {graph : TypeGraph}
    {after : Draft} (assembled : outcome assemble { document, settings } = (.ok graph, after)) :
    after = document.draft settings := by
  obtain ⟨objects, identified, -, queried, -, -, -, identities, inputs⟩ := assemble_ok assembled
  have distinct : (document.models.map Model.name).Nodup := (foldlM_addAccessors_ok queried).1
  obtain rfl := identified_ok identities
  exact outcome_forM_defineInputs .empty (fun _ => Document.find?_identifiers distinct) inputs

end Projection

end GraphBinding
