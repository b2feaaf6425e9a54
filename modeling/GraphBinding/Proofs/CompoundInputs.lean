import GraphBinding.Proofs.Generation
import GraphBinding.Proofs.Precedence

namespace GraphBinding

/-! Inputs that address a record by several identifiers.

Their names join the name of a model and those of its identifiers without a separator, so that
two models can come to one name.  The first of them has its own identifiers under it.
-/

namespace Model

variable (model : Model) (projection : IdProjection)

/-- The input type for the identifiers of a model, unless there is only one. -/
def compoundType? : Option InputType :=
  (model.compound? projection (model.identifiers?.getD [])).bind Catalog.Request.finished?

end Model

/-- The compound input that is made first under a name. -/
def Document.compoundNamed? (document : Document) (projection : IdProjection) (name : String) :
    Option InputType :=
  (document.models.filterMap (·.compoundType? projection)).find? (·.name = name)

/-- The fields are the identifiers of the model in their order, with their types in the model. -/
def InputType.Identifies (type : InputType) (model : Model) (projection : IdProjection)
    (identifiers : List String) : Prop :=
  List.Forall₂ (fun identifier entry => ∃ field graphName,
      model.field? identifier = some field ∧ field.graphName model projection = .ok graphName ∧
        entry = (identifier, { name := identifier, type := .nonNull (.named graphName) }))
    identifiers type.fields.entries

variable {document : Document} {model : Model} {projection : IdProjection}

namespace Model

/-- Of all that a model asks for, only the compound input has the name of one. -/
theorem find?_compound (stem : String) :
    ((model.requests projection).filterMap Catalog.Request.own?).find?
        (·.name = stem ++ "CompoundUniqueInput") =
      (model.compoundType? projection).toList.find? (·.name = stem ++ "CompoundUniqueInput") := by
  have filters : ((model.fields.filterMap (·.request? projection)).filterMap
      Catalog.Request.own?).find? (·.name = stem ++ "CompoundUniqueInput") = none := by
    simp only [List.find?_eq_none, List.mem_filterMap, decide_eq_true_eq]
    rintro type ⟨request, ⟨field, -, asked⟩, made⟩
    obtain ⟨start, named⟩ := Field.name_own asked made
    rw [named]
    exact append_ne_append (by decide) start stem
  have conditions : ([Catalog.Request.define (model.whereInput projection)].filterMap
      Catalog.Request.own?).find? (·.name = stem ++ "CompoundUniqueInput") = none :=
    List.find?_cons_of_neg fun same =>
      whereInputName_ne_compound model.name stem (of_decide_eq_true same)
  have key : ([Catalog.Request.define (model.uniqueInput projection
      (model.identifiers?.getD []))].filterMap Catalog.Request.own?).find?
        (·.name = stem ++ "CompoundUniqueInput") = none :=
    List.find?_cons_of_neg fun same =>
      whereUniqueInputName_ne_compound model.name stem (of_decide_eq_true same)
  have compound : (model.compound? projection (model.identifiers?.getD [])).toList.filterMap
      Catalog.Request.own? = (model.compoundType? projection).toList := by
    unfold compoundType?
    cases asked : model.compound? projection (model.identifiers?.getD []) with
    | none => rfl
    | some request =>
        obtain ⟨fields, rfl⟩ := compound?_eq_some asked
        rfl
  simp only [requests, whereRequests, uniqueRequests, List.filterMap_append, List.find?_append,
    filters, conditions, key, compound, Option.none_or, Option.or_none]

end Model

/-- Under the name of a compound input stands the first one that is made. -/
theorem Document.find?_compound (settings : Settings) (stem : String) :
    (document.draft settings).catalog.inputs.find? (stem ++ "CompoundUniqueInput") =
      document.compoundNamed? settings.idProjection (stem ++ "CompoundUniqueInput") := by
  have notNested : stem ++ "CompoundUniqueInput" ≠ "NestedString" ++ "Filter" :=
    append_ne_append (by decide) stem "NestedString"
  rw [find?_draft document settings notNested, inputTypes, requests, compoundNamed?,
    List.filterMap_flatMap, List.filterMap_eq_flatMap_toList, List.find?_flatMap,
    List.find?_flatMap]
  simp only [Model.find?_compound]

theorem InputType.Identifies.unique {identifiers : List String} {first second : InputType}
    (left : first.Identifies model projection identifiers)
    (right : second.Identifies model projection identifiers) : first.fields = second.fields := by
  refine Table.ext (List.right_unique_forall₂' ?_ left right)
  rintro identifier _ _ ⟨field, name, found, typed, rfl⟩ ⟨other, otherName, again, typedAgain, rfl⟩
  cases found.symm.trans again
  cases typed.symm.trans typedAgain
  rfl

theorem InputType.Identifies.keys {identifiers : List String} {type : InputType}
    (identifies : type.Identifies model projection identifiers) :
    type.fields.keys = identifiers := by
  refine (map_eq_of_forall₂ (identifies.imp fun identifier entry stands => ?_)).trans
    (List.map_id identifiers)
  obtain ⟨field, graphName, -, -, rfl⟩ := stands
  rfl

namespace Projection

theorem identifierType_ok {identifier : String} {typed : String × String}
    (made : identifierType model projection identifier = .ok typed) :
    ∃ field graphName, model.field? identifier = some field ∧
      field.graphName model projection = .ok graphName ∧ typed = (identifier, graphName) := by
  unfold identifierType at made
  cases found : model.field? identifier with
  | none => simp [found] at made
  | some field =>
      simp only [found] at made
      cases shown : field.graphName model projection with
      | error reason => simp [shown, Except.map] at made
      | ok graphName =>
          simp only [shown, Except.map, Except.ok.injEq] at made
          exact ⟨field, graphName, rfl, shown, made.symm⟩

variable {identifiers : List String} {typed : List (String × String)}

theorem keys_of_identifierTypes
    (typing : identifiers.mapM (identifierType model projection) = .ok typed) :
    typed.map Prod.fst = identifiers := by
  refine (map_eq_of_forall₂ ((forall₂_of_mapM typing).imp fun identifier pair made => ?_)).trans
    (List.map_id identifiers)
  obtain ⟨field, graphName, -, -, rfl⟩ := identifierType_ok made
  rfl

def identifierField : String × String → InputField :=
  fun (identifier, type) => { name := identifier, type := (TypeRef.named type).required }

/-- Several identifiers have an input of their own, to which the input for one record refers. -/
theorem compound_of_several
    (typing : identifiers.mapM (identifierType model projection) = .ok typed)
    (several : 2 ≤ identifiers.length) :
    model.compound? projection identifiers =
        some (.compoundInput (compoundInputName model.name identifiers)
          (typed.map identifierField)) ∧
      model.keyField projection identifiers =
        Filter.one (compoundKeyName identifiers) (compoundInputName model.name identifiers) := by
  have sameLength : identifiers.length = typed.length := (forall₂_of_mapM typing).length_eq
  have types : model.typedIdentifiers projection identifiers = typed := by
    rw [Model.typedIdentifiers, typing]
    rfl
  rw [Model.compound?, Model.keyField, types]
  rcases typed with _ | ⟨first, _ | ⟨second, rest⟩⟩
  · simp only [List.length_nil] at sameLength
    omega
  · simp only [List.length_cons, List.length_nil] at sameLength
    omega
  · exact ⟨rfl, rfl⟩

theorem identifies_ofFields
    (typing : identifiers.mapM (identifierType model projection) = .ok typed)
    (distinct : identifiers.Nodup) (name : String) :
    (InputType.ofFields name (typed.map identifierField)).Identifies model projection
      identifiers := by
  have entries : (InputType.ofFields name (typed.map identifierField)).fields.entries =
      typed.map fun pair => (pair.1, identifierField pair) := by
    have keys : ((typed.map identifierField).map fun field => (field.name, field)) =
        typed.map fun pair => (pair.1, identifierField pair) := List.map_map
    rw [InputType.ofFields, Table.ofValues, keys]
    refine Table.entries_ofEntries ?_
    rw [Entries.keys, List.map_map]
    change (typed.map Prod.fst).Nodup
    rwa [keys_of_identifierTypes typing]
  rw [InputType.Identifies, entries, List.forall₂_map_right_iff]
  refine (forall₂_of_mapM typing).imp fun identifier pair made => ?_
  obtain ⟨field, graphName, found, shown, rfl⟩ := identifierType_ok made
  exact ⟨field, graphName, found, shown, rfl⟩

end Projection

theorem Model.compoundType?_eq_some {type : InputType}
    (made : model.compoundType? projection = some type) :
    ∃ name fields, type = .ofFields name fields := by
  obtain ⟨request, asked, finished⟩ := Option.bind_eq_some_iff.1 made
  obtain ⟨fields, rfl⟩ := Model.compound?_eq_some asked
  cases finished
  exact ⟨_, _, rfl⟩

theorem Document.compoundNamed?_eq_some {name : String} {type : InputType}
    (found : document.compoundNamed? projection name = some type) :
    ∃ fields, type = .ofFields name fields := by
  have named : type.name = name := by simpa using List.find?_some found
  obtain ⟨model, -, made⟩ := List.mem_filterMap.1 (List.mem_of_find?_eq_some found)
  obtain ⟨other, fields, rfl⟩ := Model.compoundType?_eq_some made
  cases named
  exact ⟨fields, rfl⟩

/-- A record is addressed by one field that stands for all identifiers.  Its type has the
identifiers of the model exactly if no other type was made first under that name. -/
theorem compound_identifies_iff_first {settings : Settings} {schema : Schema}
    (generated : Schema.generate document settings = .ok schema)
    (unaliased : ∀ entry ∈ settings.fieldAliases.entries, entry.2.entries = [])
    (member : model ∈ document.models) {identifiers : List String}
    (identified : model.identifiers? = some identifiers) (distinct : identifiers.Nodup)
    (several : 2 ≤ identifiers.length) :
    ∃ unique, schema.input? (whereUniqueInputName model.name) = some unique ∧
      unique.fields.entries = [(compoundKeyName identifiers,
        Filter.one (compoundKeyName identifiers)
          (Projection.compoundInputName model.name identifiers))] ∧
      ((∃ compound,
          schema.input? (Projection.compoundInputName model.name identifiers) = some compound ∧
            compound.Identifies model settings.idProjection identifiers) ↔
        document.compoundNamed? settings.idProjection
            (Projection.compoundInputName model.name identifiers) =
          model.compoundType? settings.idProjection) := by
  have accepted := Projection.accepted_of_generate generated
  have supported : model.unsupportedField? = none :=
    Model.unsupportedField?_eq_none.2 (accepted.supported model member)
  have typing : ∃ typed,
      identifiers.mapM (Projection.identifierType model settings.idProjection) = .ok typed := by
    rw [← refusal?_eq_none, Projection.refusal?_identifierTypes supported,
      Model.missingIdentifier?_eq_none]
    simpa only [identified, Option.getD_some] using accepted.identifying model member
  obtain ⟨typed, typing⟩ := typing
  obtain ⟨asked, keyed⟩ := Projection.compound_of_several typing several
  obtain ⟨graph, assembled, rfl⟩ := Schema.assembled_of_generate generated unaliased
  have serves := Projection.serves_of_assembled assembled
  have unique := serves.find?_uniqueInput member
  rw [identified, Option.getD_some, Model.uniqueInput, keyed] at unique
  refine ⟨_, unique, rfl, ?_⟩
  have own : model.compoundType? settings.idProjection = some (.ofFields
      (Projection.compoundInputName model.name identifiers)
      (typed.map Projection.identifierField)) := by
    rw [Model.compoundType?, identified, Option.getD_some, asked]
    rfl
  have identifies := Projection.identifies_ofFields typing distinct
    (Projection.compoundInputName model.name identifiers)
  have first : (document.draft settings).catalog.inputs.find?
      (Projection.compoundInputName model.name identifiers) =
        document.compoundNamed? settings.idProjection
          (Projection.compoundInputName model.name identifiers) :=
    document.find?_compound settings _
  rw [own, ← first]
  constructor
  · rintro ⟨compound, found, belongs⟩
    obtain ⟨fields, rfl⟩ := Document.compoundNamed?_eq_some (first.symm.trans found)
    have sameFields := belongs.unique identifies
    rw [show (document.draft settings).catalog.inputs.find? _ = _ from found]
    exact congrArg (fun fields => some (InputType.mk _ none fields)) sameFields
  · intro found
    exact ⟨_, found, identifies⟩

/-- Both models come to one name for their compound inputs. -/
def diary : Document where
  models :=
    [{ name := "User", idFields := ["postId", "day"]
       fields :=
         [{ name := "postId", kind := .scalar, type := "Int" },
           { name := "day", kind := .scalar, type := "Int" }] },
      { name := "UserPost", idFields := ["id", "day"]
        fields :=
          [{ name := "id", kind := .scalar, type := "Int" },
            { name := "day", kind := .scalar, type := "Int" }] }]

theorem compound_identifies_diary :
    ∃ schema compound, Schema.generate diary {} = .ok schema ∧
      schema.input? "UserPostIdDayCompoundUniqueInput" = some compound ∧
      ∃ model ∈ diary.models, model.name = "User" ∧
        compound.Identifies model .int ["postId", "day"] := by
  have generated : ∃ schema, Schema.generate diary {} = .ok schema :=
    refusal?_eq_none.1 (by decide +kernel)
  obtain ⟨schema, generated⟩ := generated
  have unaliased : ∀ entry ∈ ({} : Settings).fieldAliases.entries, entry.2.entries = [] := by
    simp [Table.empty]
  have member : diary.models[0] ∈ diary.models := List.getElem_mem _
  have identified : diary.models[0].identifiers? = some ["postId", "day"] := by decide +kernel
  obtain ⟨-, -, -, identifies⟩ := compound_identifies_iff_first generated unaliased member
    identified (by decide) (by decide)
  obtain ⟨compound, found, belongs⟩ := identifies.2 (by decide +kernel)
  have name : Projection.compoundInputName diary.models[0].name ["postId", "day"] =
      "UserPostIdDayCompoundUniqueInput" := by
    decide +kernel
  rw [name] at found
  exact ⟨schema, compound, generated, found, _, member, rfl, belongs⟩

/-- The second model is addressed by the identifiers of the first. -/
theorem diary_posts_misaddressed :
    ∃ schema, Schema.generate diary {} = .ok schema ∧
      ∃ model ∈ diary.models, ∃ identifiers, model.identifiers? = some identifiers ∧
        identifiers.Nodup ∧ 2 ≤ identifiers.length ∧
        ∀ compound,
          schema.input? (Projection.compoundInputName model.name identifiers) = some compound →
            ¬ compound.Identifies model .int identifiers := by
  have computed : ∃ schema, Schema.generate diary {} = .ok schema ∧
      (schema.input? "UserPostIdDayCompoundUniqueInput").map (·.fields.keys) =
        some ["postId", "day"] :=
    Schema.generated_of_check (by decide +kernel)
  obtain ⟨schema, generated, keys⟩ := computed
  have member : diary.models[1] ∈ diary.models := List.getElem_mem _
  have identified : diary.models[1].identifiers? = some ["id", "day"] := by decide +kernel
  refine ⟨schema, generated, _, member, _, identified, by decide, by decide, ?_⟩
  intro compound found identifies
  have name : Projection.compoundInputName diary.models[1].name ["id", "day"] =
      "UserPostIdDayCompoundUniqueInput" := by
    decide +kernel
  rw [name] at found
  rw [found, Option.map_some, identifies.keys] at keys
  exact absurd keys (by decide)

end GraphBinding
