import GraphBinding.Proofs.ClosedGraph
import GraphBinding.Proofs.OwnFilters
import GraphBinding.Proofs.QueryFields

namespace GraphBinding

/-! What becomes of a model: its object type and its `where` input, field by field.

Both follow the fields of the model in their order.  The object has a field for each of them, the
input a condition for each that can be filtered by.
-/

/-- The input type by which records are filtered for their values of a field. -/
inductive Field.FilteredBy (projection : IdProjection) (field : Field) : String → Prop
  | scalar {native : Scalar} (kind : field.kind = .scalar) (single : field.isList = false)
      (known : native.name = field.type) :
      FilteredBy projection field
        (scalarFilterName (native.graphName field.isId projection) native)
  | scalarList {native : Scalar} (kind : field.kind = .scalar) (list : field.isList = true)
      (known : native.name = field.type) :
      FilteredBy projection field (native.graphName field.isId projection ++ "ScalarListFilter")
  | enumeration (kind : field.kind = .enumeration) (single : field.isList = false) :
      FilteredBy projection field (field.type ++ "Filter")
  | enumerationList (kind : field.kind = .enumeration) (list : field.isList = true) :
      FilteredBy projection field (field.type ++ "ScalarListFilter")
  | relation (kind : field.kind = .relation) (single : field.isList = false) :
      FilteredBy projection field (field.type ++ "WhereInput")
  | relationList (kind : field.kind = .relation) (list : field.isList = true) :
      FilteredBy projection field (field.type ++ "ListFilter")

/-- A condition for a field, which may be left out. -/
def Field.Conditioned (projection : IdProjection) (field : Field)
    (entry : String × InputField) : Prop :=
  ∃ filter, field.FilteredBy projection filter ∧
    entry = (field.name, { name := field.name, type := .named filter })

section Fields

variable {settings : Settings} {projection : IdProjection} {model : Model} {field : Field}

/-- Every field but those of unknown types is filtered by a type of its own kind. -/
theorem Field.filteredBy (known : field.kind = .scalar → Scalar.ofName? field.type ≠ none)
    (supported : field.kind ≠ .unsupported) :
    ∃ filter, field.filterName? projection = some filter ∧ field.FilteredBy projection filter := by
  unfold filterName? request?
  cases kind : field.kind with
  | scalar =>
      obtain ⟨native, found⟩ := Option.ne_none_iff_exists'.1 (known kind)
      have named := Scalar.name_of_ofName? found
      cases isList : field.isList with
      | true => exact ⟨_, by simp [found]; rfl, .scalarList kind isList named⟩
      | false =>
          refine ⟨_, ?_, .scalar kind isList named⟩
          simp only [found]
          cases native <;> cases field.isId <;> cases projection <;> rfl
  | enumeration =>
      cases isList : field.isList with
      | true => exact ⟨_, rfl, .enumerationList kind isList⟩
      | false => exact ⟨_, rfl, .enumeration kind isList⟩
  | relation =>
      cases isList : field.isList with
      | true => exact ⟨_, rfl, .relationList kind isList⟩
      | false => exact ⟨_, rfl, .relation kind isList⟩
  | unsupported => exact absurd kind supported

theorem Field.condition?_of_unsupported (kind : field.kind = .unsupported) :
    field.condition? projection = none := by
  simp [condition?, filterName?, request?, kind]

/-- The conditions of a model are those of its fields, one for each that is supported. -/
theorem Model.conditioned (known : ∀ field ∈ model.fields,
      field.kind = .scalar → Scalar.ofName? field.type ≠ none) :
    List.Forall₂ (fun field condition => field.Conditioned projection (condition.name, condition))
      (model.fields.filter (·.kind ≠ .unsupported)) (model.conditions projection) := by
  unfold conditions
  generalize model.fields = fields at known
  induction fields with
  | nil => exact .nil
  | cons field rest ih =>
      have others := ih fun other member => known other (List.mem_cons_of_mem _ member)
      by_cases kind : field.kind = .unsupported
      · have none := @Field.condition?_of_unsupported projection field kind
        rw [List.filter_cons_of_neg (by simp [kind])]
        simpa only [List.filterMap_cons, none] using others
      · obtain ⟨filter, named, filtered⟩ :=
          @Field.filteredBy projection field (known field List.mem_cons_self) kind
        have condition : field.condition? projection = some (Filter.one field.name filter) := by
          rw [Field.condition?, named]
          rfl
        rw [List.filter_cons_of_pos (by simp [kind])]
        simp only [List.filterMap_cons, condition]
        exact .cons ⟨filter, filtered, rfl⟩ others

end Fields

end GraphBinding
