import GraphBinding.Proofs.Violations

namespace GraphBinding

/-! Generation is refused by the first violation and by nothing else. -/

namespace Field

variable {field : Field} {model : Model} {projection : IdProjection}

theorem refusal?_scalar (kind : field.kind = .scalar) :
    refusal? (field.scalar model) = field.unsupported? model := by
  unfold scalar unsupported?
  cases known : Scalar.ofName? field.type with
  | none => simp [kind, refusal?]
  | some scalar => simp [refusal?]

theorem refusal?_graphName :
    refusal? (field.graphName model projection) = field.unsupported? model := by
  unfold graphName
  split
  · rename_i kind
    rw [refusal?_map, refusal?_scalar kind]
  · rename_i other
    rw [unsupported?, if_neg fun both => other both.1]
    rfl

end Field

namespace Projection

open Drafting

variable {model : Model} {field : Field} {settings : Settings}

theorem refusal?_outputField :
    refusal? (outputField settings model field) = field.unsupported? model := by
  unfold outputField
  dsimp only
  split
  · rename_i paged
    have kind : field.kind = .relation := by simpa [Field.isRelation] using paged.1
    rw [Field.unsupported?, if_neg (by simp [kind])]
    rfl
  · rw [← @Field.refusal?_graphName field model settings.idProjection, Field.typeRef]
    cases field.graphName model settings.idProjection <;> rfl

theorem refusal?_modelObject :
    refusal? (modelObject settings model) = model.unsupportedField? := by
  have fields : refusal? (model.fields.mapM (outputField settings model)) =
      model.unsupportedField? := by
    rw [refusal?_mapM]
    simp only [refusal?_outputField]
    rfl
  rw [← fields, modelObject]
  cases model.fields.mapM (outputField settings model) <;> rfl

theorem refused?_identify (draft : Draft) :
    refused? (identify model) draft = model.unidentified? := by
  have identifiers : refusal? model.identifiers = model.unidentified? := by
    unfold Model.identifiers Model.unidentified?
    cases model.identifiers? <;> rfl
  rw [identify, refused?_bind_succeeds _ fun _ _ => rfl, refused?_ofExcept, identifiers]

theorem succeeds_filterName? (supported : field.unsupported? model = none) :
    Succeeds (filterName? model field) := by
  unfold filterName?
  split
  · rename_i kind
    refine .bind (.ofExcept ((Field.refusal?_scalar kind).trans supported)) fun scalar =>
      .bind .get fun draft => ?_
    split
    · exact .bind (.withCatalog _) fun _ => .pure _
    · exact .bind (.withCatalog _) fun _ => .pure _
  · exact .bind (.withCatalog _) fun _ => .pure _
  · exact .bind (.withCatalog _) fun _ => .pure _
  · exact .bind (.withCatalog _) fun _ => .pure _
  · exact .pure _
  · exact .pure _

theorem succeeds_defineWhereInput (supported : model.unsupportedField? = none) :
    Succeeds (defineWhereInput model) := by
  refine .bind (.mapM fun field member => ?_) fun _ => .bind (.withCatalog _) fun _ => .pure _
  have supportedField := List.findSome?_eq_none_iff.1 supported field member
  exact .bind (succeeds_filterName? supportedField) fun _ => .pure _

theorem refusal?_identifierTypes (supported : model.unsupportedField? = none)
    (projection : IdProjection) (identifiers : List String) :
    refusal? (identifiers.mapM (identifierType model projection)) =
      model.missingIdentifier? identifiers := by
  rw [refusal?_mapM]
  induction identifiers with
  | nil => rfl
  | cons identifier rest ih =>
      have first : refusal? (identifierType model projection identifier) =
          if model.field? identifier = none then
            some (.identifierNotAField model.name identifier)
          else none := by
        unfold identifierType
        cases found : model.field? identifier with
        | none => rfl
        | some field =>
            have ofModel : field ∈ model.fields := List.mem_of_find?_eq_some found
            dsimp only
            rw [refusal?_map, Field.refusal?_graphName]
            simpa using List.findSome?_eq_none_iff.1 supported field ofModel
      rw [List.findSome?_cons, first, ih]
      by_cases missing : model.field? identifier = none
      · simp [Model.missingIdentifier?, missing]
      · simp [Model.missingIdentifier?, missing]

theorem refused?_defineWhereUniqueInput (supported : model.unsupportedField? = none)
    (draft : Draft) :
    refused? (defineWhereUniqueInput model) draft =
      model.missingIdentifier? ((draft.identifiers.find? model.name).getD []) := by
  rw [← refusal?_identifierTypes supported draft.settings.idProjection, defineWhereUniqueInput,
    refused?_bind, outcome_get]
  dsimp only
  rw [refused?_bind_succeeds, refused?_ofExcept]
  intro typed
  have rest : ∀ field : InputField, Succeeds (withCatalog
      (·.define (.ofFields (whereUniqueInputName model.name) [field])) >>= fun _ =>
        Pure.pure PUnit.unit) := fun _ => .bind (.withCatalog _) fun _ => .pure _
  split
  · exact .bind (.pure _) rest
  · exact .bind (.withCatalog _) fun _ => .bind (.pure _) rest

theorem refused?_defineInputs (supported : model.unsupportedField? = none) {draft : Draft}
    (named : draft.catalog.Named) :
    refused? (defineInputs model) draft =
      model.missingIdentifier? ((draft.identifiers.find? model.name).getD []) := by
  rw [← @Option.none_or _ (model.missingIdentifier? _)]
  refine refused?_bind_eq_or (succeeds_defineWhereInput supported draft) fun _ value half ran => ?_
  rw [refused?_defineWhereUniqueInput supported, outcome_defineWhereInput named ran]
  rfl

theorem builds_defineInputs (model : Model) : Keeps Draft.Builds (defineInputs model) :=
  .bind (builds_defineWhereInput model) fun _ => builds_defineWhereUniqueInput model

/-- The inputs of all models are made from the same identifiers, since making them adds to the
catalog only. -/
theorem refused?_forM_defineInputs {models : List Model}
    (supported : ∀ model ∈ models, model.unsupportedField? = none) {draft : Draft}
    (written : ∀ model ∈ models, ∃ identifiers,
      draft.identifiers.find? model.name = some identifiers)
    (named : draft.catalog.Named) :
    refused? (models.forM defineInputs) draft = models.findSome? fun model =>
      model.missingIdentifier? ((draft.identifiers.find? model.name).getD []) := by
  refine refused?_forM (fun current =>
    current.catalog.Named ∧ current.identifiers = draft.identifiers) ?_ ⟨named, rfl⟩
  rintro model member current ⟨namedCurrent, same⟩
  rw [← same]
  refine ⟨refused?_defineInputs (supported model member) namedCurrent, fun accepted => ?_⟩
  have built := builds_defineInputs model current
  rw [← refused?_defineInputs (supported model member) namedCurrent] at accepted
  have done := refused?_eq_none accepted
  obtain ⟨⟨⟩, half, filtered, done⟩ := outcome_bind_ok done
  obtain ⟨identifiers, found⟩ := written model member
  have halfDone := outcome_defineWhereInput namedCurrent filtered
  have halfBuilt := builds_defineWhereInput model current
  rw [filtered] at halfBuilt
  have namedHalf := halfBuilt.catalog.named namedCurrent
  have foundHalf : half.identifiers.find? model.name = some identifiers := by
    rw [halfDone]
    change current.identifiers.find? model.name = _
    rw [same, found]
  refine ⟨built.catalog.named namedCurrent, ?_⟩
  rw [outcome_defineWhereUniqueInput foundHalf namedHalf done, halfDone]
  rfl

/-- The query type has the accessors of some models, and no model is hidden by another. -/
def Owns (query : ObjectType) (models : List String) : Prop :=
  ∀ name, (query.field? name).map ownerOf = models.find? (name ∈ accessors ·)

theorem owns_new : Owns (ObjectType.new .query queryType none) [] := by
  intro name
  have none : (ObjectType.new .query queryType none).field? name = none := by
    cases found : (ObjectType.new .query queryType none).field? name with
    | none => rfl
    | some field =>
        have member := ObjectType.mem_fields_of_field? found
        rw [ObjectType.fields_new] at member
        cases member
  rw [none]
  rfl

theorem Owns.takenName? {query : ObjectType} {earlier : List String} (owns : Owns query earlier)
    (model : String) :
    takenName? query [findUniqueName model, findManyName model] =
      (accessors model).findSome? fun accessor =>
        (earlier.find? (accessor ∈ accessors ·)).map fun owner => (accessor, owner) := by
  refine congrArg (fun taken => (accessors model).findSome? taken) (funext fun accessor => ?_)
  rw [← owns accessor, Option.map_map]
  rfl

theorem Owns.addAccessors {query after : ObjectType} {earlier : List String} {model : String}
    (owns : Owns query earlier) (added : addAccessors query model = .ok after) :
    Owns after (earlier ++ [model]) := by
  obtain ⟨freeUnique, freeMany, fields⟩ := addAccessors_ok added
  intro name
  rw [fields, List.find?_append, ← owns name]
  by_cases many : findManyName model = name
  · subst many
    simp [freeMany, accessors, findManyField, ownerOf, FieldSource.model]
  · by_cases unique : findUniqueName model = name
    · subst unique
      simp [many, freeUnique, accessors, findUniqueField, ownerOf, FieldSource.model]
    · simp [many, unique, accessors, Ne.symm many, Ne.symm unique]

theorem refusal?_foldlM_addAccessors {query : ObjectType} {earlier models : List String}
    (owns : Owns query earlier) :
    refusal? (models.foldlM addAccessors query) = accessorClash? earlier models := by
  induction models generalizing query earlier with
  | nil => rfl
  | cons model rest ih =>
      have taken := owns.takenName? model
      have clash : (accessors model).findSome? (fun accessor =>
          (earlier.find? (accessor ∈ accessors ·)).map
            (GenerationError.accessorTaken accessor model)) =
          (takenName? query [findUniqueName model, findManyName model]).map fun taken =>
            GenerationError.accessorTaken taken.1 model taken.2 := by
        rw [taken, List.map_findSome?]
        simp only [Function.comp_def, Option.map_map]
      rw [List.foldlM_cons, accessorClash?, clash]
      cases free : takenName? query [findUniqueName model, findManyName model] with
      | some taken =>
          rw [Projection.addAccessors, free]
          rfl
      | none =>
          have added : Projection.addAccessors query model =
              .ok (query.addFields [findUniqueField model, findManyField model]) := by
            rw [Projection.addAccessors, free]
          rw [added]
          exact ih (owns.addAccessors added)

theorem refused?_forM_identify (models : List Model) (draft : Draft) :
    refused? (models.forM identify) draft = models.findSome? Model.unidentified? :=
  refused?_forM (fun _ => True) (fun _ _ draft _ => ⟨refused?_identify draft, fun _ => trivial⟩)
    trivial

variable {document : Document}

theorem refused?_assemble :
    refused? assemble { document, settings } =
      ((document.models.findSome? Model.unidentified?).or <|
        (document.models.findSome? Model.unsupportedField?).or <|
          (document.models.findSome? fun model =>
            model.missingIdentifier? (document.identifiersOf model.name)).or <|
            accessorClash? [] (document.models.map Model.name)) := by
  rw [assemble, refused?_bind, outcome_get]
  dsimp only
  refine refused?_bind_eq_or (refused?_forM_identify _ _) fun _ _ identified identities => ?_
  obtain rfl := identified_ok identities
  have objects : refusal? (document.models.mapM (modelObject settings)) =
      document.models.findSome? Model.unsupportedField? := by
    rw [refusal?_mapM]
    simp only [refusal?_modelObject]
  refine refused?_bind_eq_or ((refused?_ofExcept _ _).trans objects) fun supported _ _ made => ?_
  rw [outcome_ofExcept] at made
  obtain ⟨-, rfl⟩ := Prod.mk.inj made
  have written : ∀ model ∈ document.models, ∃ identifiers,
      document.identifiers.find? model.name = some identifiers := by
    intro model member
    refine Option.isSome_iff_exists.1 ((Table.contains_iff _ _).2 ?_)
    rw [Document.identifiers, Table.mem_keys_ofEntries, Entries.keys, List.map_map]
    exact List.mem_map.2 ⟨model, member, rfl⟩
  have fine := List.findSome?_eq_none_iff.1 supported
  refine refused?_bind_eq_or (refused?_forM_defineInputs fine written .empty) fun _ _ _ _ => ?_
  rw [refused?_bind_succeeds _ fun _ => .pure _, refused?_ofExcept, queryObject,
    refusal?_foldlM_addAccessors owns_new]

theorem refused?_forM_aliasField (renamings : List (String × String × String)) (draft : Draft) :
    refused? (renamings.forM fun (inputType, field, exposed) =>
      aliasField inputType field exposed) draft = refusal? (draft.renameAll renamings) := by
  induction renamings generalizing draft with
  | nil => rfl
  | cons first rest ih =>
      obtain ⟨inputType, field, exposed⟩ := first
      simp only [List.forM_eq_forM, Draft.renameAll] at ih ⊢
      rw [List.forM_cons, refused?_bind, outcome_aliasField, List.foldlM_cons]
      dsimp only
      cases draft.aliasField inputType field exposed with
      | error reason => rfl
      | ok renamed => exact ih renamed

theorem declareAliases_eq_forM (settings : Settings) :
    declareAliases settings.fieldAliases =
      settings.renamings.forM fun (inputType, field, exposed) =>
        aliasField inputType field exposed := by
  rw [Settings.renamings, declareAliases]
  induction settings.fieldAliases.entries with
  | nil => rfl
  | cons entry rest ih =>
      simp only [List.forM_eq_forM] at ih ⊢
      rw [List.flatMap_cons, List.forM_append, List.forM_cons, List.forM_map, ih]

theorem refused?_declareAliases (draft : Draft) :
    refused? (declareAliases settings.fieldAliases) draft =
      refusal? (draft.renameAll settings.renamings) := by
  rw [← refused?_forM_aliasField, declareAliases_eq_forM]

theorem refusal?_generate :
    refusal? (Schema.generate document settings) = document.violation? settings := by
  have answered : refusal? (Schema.generate document settings) =
      refused? project { document, settings } := by
    unfold Schema.generate
    change _ = refusal? (Draft.project { document, settings }).1
    rcases Draft.project { document, settings } with ⟨answer, after⟩
    cases answer <;> rfl
  have passes : refused? project { document, settings } =
      (refused? assemble { document, settings }).or
        (refusal? ((document.draft settings).renameAll settings.renamings)) := by
    refine refused?_bind_eq_or rfl fun _ graph middle assembled => ?_
    obtain rfl := draft_of_assembled assembled
    rw [refused?_bind, outcome_get]
    dsimp only
    rw [refused?_bind_succeeds _ fun _ => .pure _, ← refused?_declareAliases]
    rfl
  rw [answered, passes, refused?_assemble, Document.violation?]
  simp only [Option.or_assoc]

theorem accepted_of_generate {schema : Schema}
    (generated : Schema.generate document settings = .ok schema) : document.Accepted settings := by
  rw [← Document.violation?_eq_none, ← refusal?_generate]
  exact refusal?_eq_none.2 ⟨schema, generated⟩

/-- Once all objects are made, the inputs of a model are refused for an identifier or not at all. -/
theorem refused?_of_objects {objects : List ObjectType}
    (made : document.models.mapM (modelObject settings) = .ok objects)
    (member : model ∈ document.models) (draft : Draft) :
    refused? (defineWhereInput model) draft = none ∧
      ∀ reason, refused? (defineWhereUniqueInput model) draft = some reason →
        ∃ identifier, reason = .identifierNotAField model.name identifier := by
  have fine : refusal? (document.models.mapM (modelObject settings)) = none :=
    refusal?_eq_none.2 ⟨objects, made⟩
  rw [refusal?_mapM] at fine
  have supported := List.findSome?_eq_none_iff.1 fine model member
  rw [refusal?_modelObject] at supported
  refine ⟨succeeds_defineWhereInput supported draft, fun reason refused => ?_⟩
  rw [refused?_defineWhereUniqueInput supported] at refused
  obtain ⟨identifier, -, rfl⟩ := Option.map_eq_some_iff.1 refused
  exact ⟨identifier, rfl⟩

end Projection

/-- A schema is generated exactly for an accepted document, any other is refused for its first
violation, and making the inputs of a model never fails for a type that is unknown. -/
theorem generates_unless_violated (document : Document) (settings : Settings) :
    ((∃ schema, Schema.generate document settings = .ok schema) ↔ document.Accepted settings) ∧
      (∀ reason, Schema.generate document settings = .error reason ↔
        document.violation? settings = some reason) ∧
      ∀ objects, document.models.mapM (Projection.modelObject settings) = .ok objects →
        ∀ model ∈ document.models, ∀ draft,
          Drafting.refused? (Projection.defineWhereInput model) draft = none ∧
            ∀ reason, Drafting.refused? (Projection.defineWhereUniqueInput model) draft =
                some reason →
              ∃ identifier, reason = .identifierNotAField model.name identifier := by
  refine ⟨?_, fun reason => ?_, fun objects made model member draft => ?_⟩
  · rw [← refusal?_eq_none, Projection.refusal?_generate, Document.violation?_eq_none]
  · rw [← refusal?_eq_some, Projection.refusal?_generate]
  · exact Projection.refused?_of_objects made member draft

/-- Two models of one name.  The identifier of the second is no field of the first. -/
def twins : Document where
  models :=
    [{ name := "User", fields := [{ name := "a", kind := .scalar, type := "Int", isId := true }] },
      { name := "User", fields := [{ name := "b", kind := .scalar, type := "Int", isId := true }] }]

theorem generates_unless_violated_twins :
    (∃ schema, Schema.generate { models := twins.models.take 1 } {} = .ok schema) ∧
      Schema.generate twins {} = .error (.identifierNotAField "User" "b") ∧
      ∀ model ∈ twins.models, Drafting.refused? (Projection.defineWhereInput model)
        { document := twins, settings := {} } = none := by
  have accepted : Document.Accepted { models := twins.models.take 1 } {} :=
    Document.violation?_eq_none.1 (by decide +kernel)
  have violation : twins.violation? {} = some (.identifierNotAField "User" "b") := by
    decide +kernel
  have objects : ∃ objects, twins.models.mapM (Projection.modelObject {}) = .ok objects :=
    refusal?_eq_none.1 (by decide +kernel)
  obtain ⟨objects, made⟩ := objects
  obtain ⟨-, refused, inputs⟩ := generates_unless_violated twins {}
  exact ⟨(generates_unless_violated _ {}).1.2 accepted, (refused _).2 violation,
    fun model member => (inputs objects made model member _).1⟩

/-- Although each model has its own identifiers as fields, the error is not the clash of their
accessors. -/
theorem twins_refused_for_identifier :
    (∀ model ∈ twins.models, ∃ identifiers, model.identifiers? = some identifiers ∧
      ∀ identifier ∈ identifiers, model.field? identifier ≠ none) ∧
      Projection.accessorClash? [] (twins.models.map Model.name) =
        some (.accessorTaken "user" "User" "User") ∧
      Schema.generate twins {} ≠ .error (.accessorTaken "user" "User" "User") := by
  have identified : ∀ model ∈ twins.models, ∃ identifiers, model.identifiers? = some identifiers ∧
      ∀ identifier ∈ identifiers, model.field? identifier ≠ none := by
    intro model member
    rcases List.mem_pair.1 member with rfl | rfl
    · exact ⟨["a"], by decide +kernel⟩
    · exact ⟨["b"], by decide +kernel⟩
  have refused : refusal? (Schema.generate twins {}) ≠
      some (.accessorTaken "user" "User" "User") := by
    decide +kernel
  exact ⟨identified, by decide +kernel, fun same => refused (refusal?_eq_some.2 same)⟩

end GraphBinding
