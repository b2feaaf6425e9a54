import GraphBinding.Proofs.Drafting
import Mathlib.Data.List.Forall2

namespace GraphBinding

/-! The fields of the objects that are made of a document. -/

theorem forall₂_of_mapM {α β ε : Type} {step : α → Except ε β} {items : List α} {results : List β}
    (done : items.mapM step = .ok results) :
    List.Forall₂ (fun item result => step item = .ok result) items results := by
  induction items generalizing results with
  | nil =>
      cases done
      exact .nil
  | cons item rest ih =>
      rw [List.mapM_cons] at done
      cases first : step item with
      | error reason => rw [first] at done; cases done
      | ok result =>
          cases others : rest.mapM step with
          | error reason => rw [first, others] at done; cases done
          | ok remaining =>
              rw [first, others] at done
              cases done
              exact .cons first (ih others)

theorem map_eq_of_forall₂ {α β γ : Type} {left : α → γ} {right : β → γ} {first : List α}
    {second : List β}
    (each : List.Forall₂ (fun item other => right other = left item) first second) :
    second.map right = first.map left := by
  induction each with
  | nil => rfl
  | cons same _ ih => rw [List.map_cons, List.map_cons, same, ih]

theorem exists_of_mem_mapM {α β ε : Type} {step : α → Except ε β} {items : List α}
    {results : List β} (done : items.mapM step = .ok results) {result : β}
    (member : result ∈ results) : ∃ item ∈ items, step item = .ok result := by
  have each := forall₂_of_mapM done
  clear done
  induction each with
  | nil => cases member
  | cons first _ ih =>
      rcases List.mem_cons.1 member with same | inRest
      · exact ⟨_, by simp, same ▸ first⟩
      · obtain ⟨other, isItem, made⟩ := ih inRest
        exact ⟨other, by simp [isItem], made⟩

theorem exists_of_foldlM_cons {α β ε : Type} {step : β → α → Except ε β} {item : α} {rest : List α}
    {before after : β} (done : (item :: rest).foldlM step before = .ok after) :
    ∃ middle, step before item = .ok middle ∧ rest.foldlM step middle = .ok after := by
  rw [List.foldlM_cons] at done
  cases first : step before item with
  | error reason => rw [first] at done; cases done
  | ok middle =>
      rw [first] at done
      exact ⟨middle, rfl, done⟩

namespace ObjectType

theorem mem_fields {type : ObjectType} {field : OutputField} :
    field ∈ type.fields ↔ ∃ key, (key, ObjectEntry.field field) ∈ type.entries.entries := by
  simp only [fields, Table.values, Entries.values, List.mem_filterMap, List.mem_map]
  constructor
  · rintro ⟨_, ⟨⟨key, entry⟩, member, rfl⟩, isField⟩
    cases entry with
    | field definition =>
        cases isField
        exact ⟨key, member⟩
    | _ => cases isField
  · rintro ⟨key, member⟩
    exact ⟨_, ⟨_, member, rfl⟩, rfl⟩

theorem mem_fields_of_field? {type : ObjectType} {name : String} {field : OutputField}
    (found : type.field? name = some field) : field ∈ type.fields := by
  obtain ⟨entry, known, isField⟩ := Option.bind_eq_some_iff.1 found
  cases entry with
  | field definition =>
      cases isField
      exact mem_fields.2 ⟨name, (Table.find?_eq_some _ _ _).1 known⟩
  | _ => cases isField

theorem fields_new (kind : ObjectKind) (name : String) (description : Option String) :
    (new kind name description).fields = [] := by
  cases description <;> rfl

theorem mem_fields_addField {type : ObjectType} {added field : OutputField}
    (member : field ∈ (type.addField added).fields) : field = added ∨ field ∈ type.fields := by
  obtain ⟨key, isEntry⟩ := mem_fields.1 member
  rcases Entries.mem_of_mem_insert isEntry with new | old
  · cases new
    exact .inl rfl
  · exact .inr (mem_fields.2 ⟨key, old⟩)

theorem mem_fields_addFields {type : ObjectType} {added : List OutputField} {field : OutputField}
    (member : field ∈ (type.addFields added).fields) : field ∈ added ∨ field ∈ type.fields := by
  induction added generalizing type with
  | nil => exact .inr member
  | cons first rest ih =>
      rcases ih member with inRest | written
      · exact .inl (List.mem_cons_of_mem _ inRest)
      · rcases mem_fields_addField written with same | old
        · exact .inl (same ▸ List.mem_cons_self)
        · exact .inr old

theorem field?_addField (type : ObjectType) (added : OutputField) (name : String) :
    (type.addField added).field? name =
      if added.name = name then some added else type.field? name := by
  rw [field?, addField, Table.find?_insert]
  split <;> rfl

end ObjectType

theorem baseName_wrap (name : String) (isList isRequired : Bool) :
    (Field.wrap name isList isRequired).baseName = name := by
  cases isList <;> cases isRequired <;> rfl

namespace Projection

open Drafting

/-- The fields that objects made of a document have. -/
inductive Makes (document : Document) (settings : Settings) : OutputField → Prop where
  | property {model : Model} {field : Field} {output : OutputField}
      (ofDocument : model ∈ document.models) (ofModel : field ∈ model.fields)
      (made : outputField settings model field = .ok output) : Makes document settings output
  | page {model : Model} {output : OutputField} (ofDocument : model ∈ document.models)
      (ofPage : output ∈ (listResult model.name).fields) : Makes document settings output
  | accessor {model : Model} {output : OutputField} (ofDocument : model ∈ document.models)
      (made : output = findUniqueField model.name ∨ output = findManyField model.name) :
      Makes document settings output

theorem assemble_ok {before after : Draft} {graph : TypeGraph}
    (assembled : outcome assemble before = (.ok graph, after)) :
    ∃ objects identified,
      before.document.models.mapM (modelObject before.settings) = .ok objects ∧
      queryObject (before.document.models.map Model.name) = .ok graph.query ∧
      graph.models = .ofEntries ((before.document.models.map Model.name).zip objects) ∧
      graph.listResults =
        .ofValues ObjectType.name (before.document.models.map fun model => listResult model.name) ∧
      graph.enums =
        .ofValues (·.type.name) (before.document.enums.map (documentedEnum before.settings)) ∧
      outcome (before.document.models.forM identify) before = (.ok ⟨⟩, identified) ∧
      outcome (before.document.models.forM defineInputs) identified = (.ok ⟨⟩, after) := by
  obtain ⟨_, _, got, assembled⟩ := outcome_bind_ok assembled
  cases got
  obtain ⟨⟨⟩, identified, identities, assembled⟩ := outcome_bind_ok assembled
  obtain ⟨objects, _, answered, assembled⟩ := outcome_bind_ok assembled
  rw [outcome_ofExcept] at answered
  obtain ⟨made, rfl⟩ := Prod.mk.inj answered
  obtain ⟨⟨⟩, defined, inputs, assembled⟩ := outcome_bind_ok assembled
  obtain ⟨query, _, answered, assembled⟩ := outcome_bind_ok assembled
  rw [outcome_ofExcept] at answered
  obtain ⟨queried, rfl⟩ := Prod.mk.inj answered
  cases assembled
  exact ⟨objects, identified, made, queried, rfl, rfl, rfl, identities, inputs⟩

theorem mem_fields_modelObject {settings : Settings} {model : Model} {object : ObjectType}
    (made : modelObject settings model = .ok object) {field : OutputField}
    (member : field ∈ object.fields) :
    ∃ source ∈ model.fields, outputField settings model source = .ok field := by
  cases outputs : model.fields.mapM (outputField settings model) with
  | error reason => rw [modelObject, outputs] at made; cases made
  | ok fields =>
      rw [modelObject, outputs] at made
      cases made
      rcases ObjectType.mem_fields_addFields member with added | old
      · exact exists_of_mem_mapM outputs added
      · have none : field ∈ (ObjectType.new .model model.name
          (descriptionOf settings model.documentation)).fields := old
        rw [ObjectType.fields_new] at none
        cases none

theorem mem_fields_foldlM_addAccessors {models : List String} {before query : ObjectType}
    (queried : models.foldlM addAccessors before = .ok query) {field : OutputField}
    (member : field ∈ query.fields) :
    field ∈ before.fields ∨
      ∃ model ∈ models, field = findUniqueField model ∨ field = findManyField model := by
  induction models generalizing before with
  | nil =>
      cases queried
      exact .inl member
  | cons model rest ih =>
      obtain ⟨middle, added, queried⟩ := exists_of_foldlM_cons queried
      rcases ih queried with old | ⟨other, isModel, made⟩
      · unfold addAccessors at added
        split at added
        · cases added
        · cases added
          rcases ObjectType.mem_fields_addFields old with new | older
          · exact .inr ⟨model, by simp, by simpa using new⟩
          · exact .inl older
      · exact .inr ⟨other, by simp [isModel], made⟩

theorem mem_values_ofEntries {α : Type} {entries : Entries α} {value : α}
    (member : value ∈ (Table.ofEntries entries).values) : ∃ name, (name, value) ∈ entries := by
  obtain ⟨⟨name, _⟩, isEntry, rfl⟩ := List.mem_map.1 member
  exact ⟨name, Entries.mem_of_mem_collapse isEntry⟩

/-- Every field of every object of an assembled graph is made of the document. -/
theorem makes_of_mem_objects {before after : Draft} {graph : TypeGraph}
    (assembled : outcome assemble before = (.ok graph, after)) {object : ObjectType}
    (ofGraph : object ∈ graph.objects) {field : OutputField} (member : field ∈ object.fields) :
    Makes before.document before.settings field := by
  obtain ⟨objects, identified, made, queried, models, pages, -, -, -⟩ := assemble_ok assembled
  rw [TypeGraph.objects, List.mem_append, List.mem_append, List.mem_singleton] at ofGraph
  rcases ofGraph with (ofModels | ofPages) | rfl
  · rw [models] at ofModels
    obtain ⟨name, zipped⟩ := mem_values_ofEntries ofModels
    obtain ⟨model, isModel, madeObject⟩ := exists_of_mem_mapM made (List.of_mem_zip zipped).2
    obtain ⟨source, isField, madeField⟩ := mem_fields_modelObject madeObject member
    exact .property isModel isField madeField
  · rw [pages] at ofPages
    obtain ⟨_, isEntry⟩ := mem_values_ofEntries ofPages
    obtain ⟨page, isPage, same⟩ := List.mem_map.1 isEntry
    obtain ⟨model, isModel, rfl⟩ := List.mem_map.1 isPage
    cases same
    exact .page isModel member
  · rcases mem_fields_foldlM_addAccessors queried member with none | ⟨name, isName, madeField⟩
    · rw [ObjectType.fields_new] at none
      cases none
    · obtain ⟨model, isModel, rfl⟩ := List.mem_map.1 isName
      exact .accessor isModel madeField

theorem mem_objects_of_object? {graph : TypeGraph} {name : String} {object : ObjectType}
    (found : graph.object? name = some object) : object ∈ graph.objects := by
  rw [TypeGraph.objects, List.mem_append, List.mem_append, List.mem_singleton]
  unfold TypeGraph.object? at found
  split at found
  · cases found
    exact .inr rfl
  · rcases Option.or_eq_some_iff.1 found with ofModels | ⟨-, ofPages⟩
    · exact .inl (.inl (List.mem_map.2 ⟨_, (Table.find?_eq_some _ _ _).1 ofModels, rfl⟩))
    · exact .inl (.inr (List.mem_map.2 ⟨_, (Table.find?_eq_some _ _ _).1 ofPages, rfl⟩))

theorem fields_listResult (model : String) :
    (listResult model).fields =
      [{ name := "list", type := Field.wrap model true true },
        { name := "total", type := (TypeRef.named "Int").required },
        { name := "hasMore", type := (TypeRef.named "Boolean").required }] := rfl

theorem outputField_ok {settings : Settings} {model : Model} {field : Field} {output : OutputField}
    (made : outputField settings model field = .ok output) :
    (field.kind = .relation ∧ output.type.baseName = listResultName field.type ∧
        output.arguments = pagingArguments field.type) ∨
      field.graphName model settings.idProjection = .ok output.type.baseName ∧
        output.arguments = Table.empty ∧ ∀ source, output.source = some source →
          source = .relationOne model.name field.name := by
  unfold outputField at made
  dsimp only at made
  split at made
  · rename_i paged
    cases made
    exact .inl ⟨by simpa [Field.isRelation] using paged.1, rfl, rfl⟩
  · cases named : field.graphName model settings.idProjection with
    | error reason =>
        rw [Field.typeRef, named] at made
        cases made
    | ok name =>
        rw [Field.typeRef, named] at made
        cases made
        have sameName := (baseName_wrap name field.isList field.isRequired).symm
        refine .inr ⟨congrArg Except.ok sameName, rfl, fun source resolved => ?_⟩
        dsimp only at resolved
        split at resolved
        · cases resolved
          rfl
        · cases resolved

theorem keys_of_assembled {before after : Draft} {graph : TypeGraph}
    (assembled : outcome assemble before = (.ok graph, after)) (name : String) :
    (name ∈ graph.models.keys ↔ name ∈ before.document.models.map Model.name) ∧
      (name ∈ graph.listResults.keys ↔
        ∃ model ∈ before.document.models, listResultName model.name = name) ∧
      (name ∈ graph.enums.keys ↔ name ∈ before.document.enums.map Enum.name) := by
  obtain ⟨objects, identified, made, -, models, pages, enums, -, -⟩ := assemble_ok assembled
  refine ⟨?_, ?_, ?_⟩
  · have lengths : (before.document.models.map Model.name).length ≤ objects.length := by
      rw [List.length_map]
      exact Nat.le_of_eq (forall₂_of_mapM made).length_eq
    rw [models, Table.mem_keys_ofEntries, Entries.keys, List.map_fst_zip lengths]
  · rw [pages, Table.mem_keys_ofValues]
    simp only [List.mem_map, exists_exists_and_eq_and]
    rfl
  · rw [enums, Table.mem_keys_ofValues]
    simp only [List.mem_map, exists_exists_and_eq_and]
    rfl

theorem findUniqueName_ne_findManyName (model : String) :
    findUniqueName model ≠ findManyName model := by
  intro same
  have lengths := congrArg String.length same
  rw [findManyName, findUniqueName, String.length_append] at lengths
  have one : "s".length = 1 := rfl
  omega

/-- Accessors are only added under names that are free. -/
theorem addAccessors_ok {before after : ObjectType} {model : String}
    (added : addAccessors before model = .ok after) :
    before.field? (findUniqueName model) = none ∧ before.field? (findManyName model) = none ∧
      ∀ name, after.field? name =
        if findManyName model = name then some (findManyField model)
        else if findUniqueName model = name then some (findUniqueField model)
        else before.field? name := by
  unfold addAccessors takenName? at added
  cases unique : before.field? (findUniqueName model) with
  | some field => simp [List.findSome?, unique] at added
  | none =>
      cases many : before.field? (findManyName model) with
      | some field => simp [List.findSome?, unique, many] at added
      | none =>
          simp only [List.findSome?, unique, many, Option.map_none, Except.ok.injEq] at added
          subst added
          refine ⟨rfl, rfl, fun name => ?_⟩
          simp only [ObjectType.addFields, List.foldl_cons, List.foldl_nil,
            ObjectType.field?_addField]
          rfl

theorem addAccessors_keeps {before after : ObjectType} {model name : String} {field : OutputField}
    (added : addAccessors before model = .ok after) (found : before.field? name = some field) :
    after.field? name = some field := by
  obtain ⟨freeUnique, freeMany, fields⟩ := addAccessors_ok added
  have notUnique : findUniqueName model ≠ name := by
    rintro rfl
    rw [freeUnique] at found
    cases found
  have notMany : findManyName model ≠ name := by
    rintro rfl
    rw [freeMany] at found
    cases found
  rw [fields, if_neg notMany, if_neg notUnique, found]

theorem addAccessors_adds {before after : ObjectType} {model : String}
    (added : addAccessors before model = .ok after) :
    after.field? (findUniqueName model) = some (findUniqueField model) ∧
      after.field? (findManyName model) = some (findManyField model) := by
  obtain ⟨-, -, fields⟩ := addAccessors_ok added
  constructor
  · rw [fields, if_neg (findUniqueName_ne_findManyName model).symm, if_pos rfl]
  · rw [fields, if_pos rfl]

theorem foldlM_addAccessors_keeps {models : List String} {before query : ObjectType}
    (queried : models.foldlM addAccessors before = .ok query) {name : String} {field : OutputField}
    (found : before.field? name = some field) : query.field? name = some field := by
  induction models generalizing before with
  | nil =>
      cases queried
      exact found
  | cons model rest ih =>
      obtain ⟨middle, added, queried⟩ := exists_of_foldlM_cons queried
      exact ih queried (addAccessors_keeps added found)

/-- No accessor is lost, and no model has accessors twice. -/
theorem foldlM_addAccessors_ok {models : List String} {before query : ObjectType}
    (queried : models.foldlM addAccessors before = .ok query) :
    models.Nodup ∧ (∀ model ∈ models, before.field? (findUniqueName model) = none) ∧
      ∀ model ∈ models, query.field? (findUniqueName model) = some (findUniqueField model) ∧
        query.field? (findManyName model) = some (findManyField model) := by
  induction models generalizing before with
  | nil =>
      cases queried
      simp
  | cons model rest ih =>
      obtain ⟨middle, added, others⟩ := exists_of_foldlM_cons queried
      obtain ⟨distinct, fresh, all⟩ := ih others
      obtain ⟨unique, many⟩ := addAccessors_adds added
      have absent : model ∉ rest := by
        intro again
        rw [fresh model again] at unique
        cases unique
      refine ⟨List.nodup_cons.2 ⟨absent, distinct⟩, fun other member => ?_, fun other member => ?_⟩
      · rcases List.mem_cons.1 member with rfl | inRest
        · exact (addAccessors_ok added).1
        · cases found : before.field? (findUniqueName other) with
          | none => rfl
          | some field =>
              have taken := addAccessors_keeps added found
              rw [fresh other inRest] at taken
              cases taken
      · rcases List.mem_cons.1 member with rfl | inRest
        · exact ⟨foldlM_addAccessors_keeps others unique,
            foldlM_addAccessors_keeps others many⟩
        · exact all other inRest

/-- The objects of models stand under the names of the models, in their order. -/
theorem entries_modelObjects {before after : Draft} {graph : TypeGraph}
    (assembled : outcome assemble before = (.ok graph, after)) :
    List.Forall₂ (fun model entry => entry.1 = model.name ∧
        modelObject before.settings model = .ok entry.2)
      before.document.models graph.models.entries := by
  obtain ⟨objects, identified, made, queried, models, -⟩ := assemble_ok assembled
  have distinct : (before.document.models.map Model.name).Nodup :=
    (foldlM_addAccessors_ok queried).1
  have each := forall₂_of_mapM made
  have lengths : (before.document.models.map Model.name).length ≤ objects.length := by
    rw [List.length_map]
    exact Nat.le_of_eq each.length_eq
  rw [models, Table.entries_ofEntries (by rwa [Entries.keys, List.map_fst_zip lengths])]
  clear made queried models distinct lengths
  generalize before.document.models = models at each ⊢
  induction each with
  | nil => exact .nil
  | cons madeObject _ ih => exact .cons ⟨rfl, madeObject⟩ ih

end Projection

end GraphBinding
