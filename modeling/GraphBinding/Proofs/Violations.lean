import GraphBinding.Proofs.Refusals
import GraphBinding.Schema

namespace GraphBinding

/-! What is wrong with a document.

A document is checked in five passes: that records of every model can be told apart, that scalars
are known, that identifiers are fields, that no two models want the same accessors, and that the
declared aliases can be given.  `Document.violation?` is what the first unsuccessful pass comes
upon first.
-/

/-- The scalar of a field, if it should have one and there is no such scalar. -/
def Field.unsupported? (field : Field) (model : Model) : Option GenerationError :=
  if field.kind = .scalar ∧ Scalar.ofName? field.type = none then
    some (.unsupportedScalar model.name field.name field.type)
  else none

namespace Model

def unidentified? (model : Model) : Option GenerationError :=
  if model.identifiers? = none then some (.noIdentifier model.name) else none

def unsupportedField? (model : Model) : Option GenerationError :=
  model.fields.findSome? (·.unsupported? model)

/-- The first of some identifiers that is no field of the model. -/
def missingIdentifier? (model : Model) (identifiers : List String) : Option GenerationError :=
  (identifiers.find? (model.field? · = none)).map (.identifierNotAField model.name)

end Model

namespace Projection

def accessors (model : String) : List String := [findUniqueName model, findManyName model]

/-- The first accessor that an earlier model has as well. -/
def accessorClash? (earlier : List String) : List String → Option GenerationError
  | [] => none
  | model :: rest =>
      ((accessors model).findSome? fun accessor =>
        (earlier.find? (accessor ∈ accessors ·)).map (.accessorTaken accessor model)).or
        (accessorClash? (earlier ++ [model]) rest)

end Projection

/-- Input type, field, and the name to expose it under, in the order of declaration. -/
def Settings.renamings (settings : Settings) : List (String × String × String) :=
  settings.fieldAliases.entries.flatMap fun (inputType, renamings) =>
    renamings.entries.map fun (field, exposed) => (inputType, field, exposed)

/-- Renames fields one after the other, as long as no alias is refused. -/
def Draft.renameAll (draft : Draft) (renamings : List (String × String × String)) :
    Except GenerationError Draft :=
  renamings.foldlM (fun draft (inputType, field, exposed) =>
    draft.aliasField inputType field exposed) draft

namespace Document

/-- The identifiers that are used for a model: those of the last model of its name. -/
def identifiersOf (document : Document) (model : String) : List String :=
  (document.identifiers.find? model).getD []

/-- A document for which a schema can be generated. -/
structure Accepted (document : Document) (settings : Settings) : Prop where
  identified : ∀ model ∈ document.models, model.identifiers? ≠ none
  supported : ∀ model ∈ document.models, ∀ field ∈ model.fields,
    field.kind = .scalar → Scalar.ofName? field.type ≠ none
  identifying : ∀ model ∈ document.models, ∀ identifier ∈ model.identifiers?.getD [],
    model.field? identifier ≠ none
  accessors : (document.models.flatMap fun model => Projection.accessors model.name).Nodup
  aliases : ∃ aliased, (document.draft settings).renameAll settings.renamings = .ok aliased

/-- The first violation, in the order of the passes. -/
def violation? (document : Document) (settings : Settings) : Option GenerationError :=
  (document.models.findSome? Model.unidentified?).or <|
    (document.models.findSome? Model.unsupportedField?).or <|
      (document.models.findSome? fun model =>
        model.missingIdentifier? (document.identifiersOf model.name)).or <|
        (Projection.accessorClash? [] (document.models.map Model.name)).or <|
          refusal? ((document.draft settings).renameAll settings.renamings)

end Document

theorem Field.unsupported?_eq_none {field : Field} {model : Model} :
    field.unsupported? model = none ↔
      (field.kind = .scalar → Scalar.ofName? field.type ≠ none) := by
  unfold unsupported?
  split
  · rename_i both
    simp [both.1, both.2]
  · rename_i fine
    simpa using fine

theorem Model.unsupportedField?_eq_none {model : Model} :
    model.unsupportedField? = none ↔
      ∀ field ∈ model.fields, field.kind = .scalar → Scalar.ofName? field.type ≠ none := by
  simp only [unsupportedField?, List.findSome?_eq_none_iff, Field.unsupported?_eq_none]

theorem Model.missingIdentifier?_eq_none {model : Model} {identifiers : List String} :
    model.missingIdentifier? identifiers = none ↔
      ∀ identifier ∈ identifiers, model.field? identifier ≠ none := by
  simp only [missingIdentifier?, Option.map_eq_none_iff, List.find?_eq_none, decide_eq_true_eq]

namespace Projection

theorem nodup_accessors (model : String) : (accessors model).Nodup := by
  simp [accessors, findUniqueName_ne_findManyName]

/-- Clashes are looked for with the accessors of all earlier models; those of one model are always
two. -/
theorem accessorClash?_eq_none {earlier models : List String}
    (distinct : (earlier.flatMap accessors).Nodup) :
    accessorClash? earlier models = none ↔ ((earlier ++ models).flatMap accessors).Nodup := by
  induction models generalizing earlier with
  | nil => simpa [accessorClash?] using distinct
  | cons model rest ih =>
      have apart : ((accessors model).findSome? fun accessor =>
          (earlier.find? (accessor ∈ accessors ·)).map
            (GenerationError.accessorTaken accessor model)) = none ↔
          ((earlier ++ [model]).flatMap accessors).Nodup := by
        simp only [List.findSome?_eq_none_iff, Option.map_eq_none_iff, List.find?_eq_none,
          decide_eq_true_eq, List.flatMap_append, List.flatMap_singleton, List.nodup_append,
          distinct, nodup_accessors, true_and, List.mem_flatMap, forall_exists_index, and_imp]
        constructor
        · rintro free accessor owner isOwner taken _ isAccessor rfl
          exact free accessor isAccessor owner isOwner taken
        · intro free accessor isAccessor owner isOwner taken
          exact free accessor owner isOwner taken accessor isAccessor rfl
      rw [accessorClash?, Option.or_eq_none_iff, apart, List.append_cons earlier model rest]
      constructor
      · rintro ⟨distinctNext, clear⟩
        exact (ih distinctNext).1 clear
      · intro all
        have distinctNext : ((earlier ++ [model]).flatMap accessors).Nodup := by
          rw [List.flatMap_append] at all
          exact (List.nodup_append.1 all).1
        exact ⟨distinctNext, (ih distinctNext).2 all⟩

end Projection

namespace Document

variable {document : Document} {settings : Settings}

theorem nodup_of_accessors
    (accessors : (document.models.flatMap fun model => Projection.accessors model.name).Nodup) :
    (document.models.map Model.name).Nodup := by
  have apart := (List.nodup_flatMap.1 accessors).2
  refine List.pairwise_map.2 (apart.imp fun {first second} disjoint same => ?_)
  have taken : Projection.findUniqueName first.name ∈ Projection.accessors first.name := by
    simp [Projection.accessors]
  exact disjoint taken (same ▸ taken)

theorem identifiersOf_of_nodup (distinct : (document.models.map Model.name).Nodup) {model : Model}
    (member : model ∈ document.models) :
    document.identifiersOf model.name = model.identifiers?.getD [] := by
  rw [identifiersOf, find?_identifiers distinct member, Option.getD_some]

/-- Models that share their names share accessors as well, so that where nothing is violated
every model has its own identifiers. -/
theorem violation?_eq_none : document.violation? settings = none ↔ document.Accepted settings := by
  have identified : document.models.findSome? Model.unidentified? = none ↔
      ∀ model ∈ document.models, model.identifiers? ≠ none := by
    simp [Model.unidentified?]
  have clear : Projection.accessorClash? [] (document.models.map Model.name) = none ↔
      (document.models.flatMap fun model => Projection.accessors model.name).Nodup := by
    rw [Projection.accessorClash?_eq_none (by simp), List.nil_append, List.flatMap_map]
  simp only [violation?, Option.or_eq_none_iff, identified, clear, List.findSome?_eq_none_iff,
    Model.unsupportedField?_eq_none, Model.missingIdentifier?_eq_none, refusal?_eq_none]
  constructor
  · rintro ⟨identified, supported, identifying, accessors, aliases⟩
    refine ⟨identified, supported, fun model member => ?_, accessors, aliases⟩
    rw [← identifiersOf_of_nodup (nodup_of_accessors accessors) member]
    exact identifying model member
  · rintro ⟨identified, supported, identifying, accessors, aliases⟩
    refine ⟨identified, supported, fun model member => ?_, accessors, aliases⟩
    rw [identifiersOf_of_nodup (nodup_of_accessors accessors) member]
    exact identifying model member

end Document

end GraphBinding
