import GraphBinding.Proofs.ClosedGraph
import GraphBinding.Proofs.CompoundInputs
import GraphBinding.Proofs.IdentityTiers
import GraphBinding.Proofs.UniqueClauses

namespace GraphBinding

/-! The clause for a parent's record fits the input type that was generated for such clauses.

Whether identifiers stand alone or together is decided twice: by the typed identifiers when the
input is made, by the identifiers themselves when the clause is.
-/

/-- The name of the input for several identifiers, if a model has several. -/
def Model.compoundName? (model : Model) : Option String :=
  match model.identifiers? with
  | some (first :: second :: rest) =>
      some (Projection.compoundInputName model.name (first :: second :: rest))
  | _ => none

/-- A value stands for the identifiers of a parent where an input has a field for them. -/
def Schema.Addresses (schema : Schema) (field : InputField) (parent value : Json) :
    List String → Prop
  | [identifier] => parent.get? identifier = some value
  | _ => ∃ compound members, schema.input? field.type.baseName = some compound ∧
      value = .object members ∧ Entries.keys members = compound.fields.keys ∧
      ∀ entry ∈ members, parent.get? entry.1 = some entry.2

variable {document : Document} {settings : Settings} {schema : Schema} {model : Model}
  {projection : IdProjection} {identifiers : List String} {typed : List (String × String)}

theorem Document.Accepted.identifierTypes (accepted : document.Accepted settings)
    (member : model ∈ document.models) (identified : model.identifiers? = some identifiers) :
    ∃ typed, identifiers.mapM (Projection.identifierType model settings.idProjection) =
      .ok typed := by
  have supported : model.unsupportedField? = none :=
    Model.unsupportedField?_eq_none.2 (accepted.supported model member)
  rw [← refusal?_eq_none, Projection.refusal?_identifierTypes supported,
    Model.missingIdentifier?_eq_none]
  simpa [identified] using accepted.identifying model member

/-- A model makes a compound input if and only if it has a name for one. -/
theorem Document.Accepted.name_compoundType? (accepted : document.Accepted settings)
    (member : model ∈ document.models) :
    (model.compoundType? settings.idProjection).map InputType.name = model.compoundName? := by
  cases identified : model.identifiers? with
  | none => exact absurd identified (accepted.identified model member)
  | some identifiers =>
      obtain ⟨typed, typing⟩ := accepted.identifierTypes member identified
      have keys := Projection.keys_of_identifierTypes typing
      have types : model.typedIdentifiers settings.idProjection identifiers = typed := by
        rw [Model.typedIdentifiers, typing]
        rfl
      rw [Model.compoundType?, Model.compoundName?, identified, Option.getD_some, Model.compound?,
        types]
      subst keys
      rcases typed with _ | ⟨first, _ | ⟨second, rest⟩⟩
      · exact absurd identified Model.identifiers?_ne_nil
      · rfl
      · rfl

theorem Document.compoundNamed?_of_alone (accepted : document.Accepted settings)
    (member : model ∈ document.models) {type : InputType}
    (made : model.compoundType? settings.idProjection = some type)
    (alone : ∀ other ∈ document.models, other.compoundName? = some type.name → other = model) :
    document.compoundNamed? settings.idProjection type.name = some type := by
  have present : type ∈ document.models.filterMap (·.compoundType? settings.idProjection) :=
    List.mem_filterMap.2 ⟨model, member, made⟩
  cases found : document.compoundNamed? settings.idProjection type.name with
  | none => simpa using List.find?_eq_none.1 found type present
  | some first =>
      have named : first.name = type.name := by simpa using List.find?_some found
      obtain ⟨other, isModel, makes⟩ := List.mem_filterMap.1 (List.mem_of_find?_eq_some found)
      have name := accepted.name_compoundType? isModel
      rw [makes, Option.map_some, named] at name
      obtain rfl := alone other isModel name.symm
      exact makes.symm.trans made

theorem InputType.keys_ofIdentifiers
    (typing : identifiers.mapM (Projection.identifierType model projection) = .ok typed)
    (name : String) (record : Json) :
    (InputType.ofFields name (typed.map Projection.identifierField)).fields.keys =
      Entries.keys (Entries.collapse (record.membersAt identifiers)) := by
  refine Entries.keys_collapse_congr ?_
  have fields : Entries.keys ((typed.map Projection.identifierField).map
      fun field => (field.name, field)) = typed.map Prod.fst := by
    simp [Entries.keys, Projection.identifierField, Function.comp_def]
  have members : Entries.keys (record.membersAt identifiers) = identifiers := by
    simp [Entries.keys, Json.membersAt, Function.comp_def]
  rw [fields, members, Projection.keys_of_identifierTypes typing]

theorem Json.get?_of_mem_membersAt {record : Json} {entry : String × Json}
    (complete : identifiers.find? record.lacks = none)
    (member : entry ∈ Entries.collapse (record.membersAt identifiers)) :
    record.get? entry.1 = some entry.2 := by
  obtain ⟨identifier, present, rfl⟩ := List.mem_map.1 (Entries.mem_of_mem_collapse member)
  exact get?_of_not_lacks (by simpa using List.find?_eq_none.1 complete identifier present)

/-- The clause for a parent is refused for the first identifier that the parent lacks, and only
so.  Otherwise it is what the generated input describes: its only member stands under the name of
the only field, for one identifier with the parent's value, for several with an object that has
the fields of the compound input in their order and the parent's values. -/
theorem uniqueClause_fits_uniqueInput
    (generated : Schema.generate document settings = .ok schema)
    (unaliased : ∀ entry ∈ settings.fieldAliases.entries, entry.2.entries = [])
    (member : model ∈ document.models) (identified : model.identifiers? = some identifiers)
    (alone : ∀ name, model.compoundName? = some name →
      ∀ other ∈ document.models, other.compoundName? = some name → other = model)
    (parent : Json) :
    schema.identifiers? model.name = some identifiers ∧
      (∀ error, uniqueClause model.name identifiers parent = .error error ↔
        ∃ field, identifiers.find? parent.lacks = some field ∧
          error = .missingIdentifier model.name field) ∧
      (identifiers.find? parent.lacks = none → ∃ unique field value,
        uniqueClause model.name identifiers parent = .ok (.object [(field.name, value)]) ∧
          schema.input? (whereUniqueInputName model.name) = some unique ∧
          unique.fields.entries = [(field.name, field)] ∧
          schema.Addresses field parent value identifiers) := by
  have accepted := Projection.accepted_of_generate generated
  obtain ⟨typed, typing⟩ := accepted.identifierTypes member identified
  obtain ⟨graph, assembled, rfl⟩ := Schema.assembled_of_generate generated unaliased
  have serves := Projection.serves_of_assembled assembled
  have distinct := Document.nodup_of_accessors accepted.accessors
  have known : document.identifiers.find? model.name = some identifiers := by
    simpa [identified] using Document.find?_identifiers distinct member
  have unique := serves.find?_uniqueInput member
  rw [identified, Option.getD_some, Model.uniqueInput] at unique
  refine ⟨known, fun error => uniqueClause_eq_error, fun complete => ?_⟩
  rcases identifiers with _ | ⟨identifier, _ | ⟨second, rest⟩⟩
  · exact absurd identified Model.identifiers?_ne_nil
  · have types : model.typedIdentifiers settings.idProjection [identifier] = typed := by
      rw [Model.typedIdentifiers, typing]
      rfl
    have keys := Projection.keys_of_identifierTypes typing
    rw [Model.keyField, types] at unique
    obtain ⟨entry, rfl, rfl⟩ := List.map_eq_singleton_iff.1 keys
    refine ⟨_, _, _, uniqueClause_single complete, unique, rfl, ?_⟩
    exact Json.get?_of_not_lacks (by simpa using complete)
  · have several : 2 ≤ (identifier :: second :: rest).length := by simp
    obtain ⟨asked, keyed⟩ := Projection.compound_of_several typing several
    rw [keyed] at unique
    have made : model.compoundType? settings.idProjection = some (.ofFields
        (Projection.compoundInputName model.name (identifier :: second :: rest))
        (typed.map Projection.identifierField)) := by
      rw [Model.compoundType?, identified, Option.getD_some, asked]
      rfl
    have name : model.compoundName? =
        some (Projection.compoundInputName model.name (identifier :: second :: rest)) := by
      rw [Model.compoundName?, identified]
    have compound := Document.compoundNamed?_of_alone accepted member made (alone _ name)
    have found := document.find?_compound settings
      (model.name ++ String.join ((identifier :: second :: rest).map Text.upperCamel))
    refine ⟨_, _, _, uniqueClause_several complete several, unique, rfl, ?_⟩
    exact ⟨_, _, found.trans compound, rfl, (InputType.keys_ofIdentifiers typing _ parent).symm,
      fun entry => Json.get?_of_mem_membersAt complete⟩

def blogEntry (slug : Json) : Json := .object [("slug", slug), ("writer", .integer 7)]

theorem uniqueClause_fits_uniqueInput_blog :
    ∃ schema unique field value, Schema.generate blog {} = .ok schema ∧
      schema.input? "PostWhereUniqueInput" = some unique ∧
      unique.fields.entries = [(field.name, field)] ∧
      uniqueClause "Post" ["writer", "slug"] (blogEntry (.string "first")) =
        .ok (.object [(field.name, value)]) ∧
      schema.Addresses field (blogEntry (.string "first")) value ["writer", "slug"] ∧
      uniqueClause "Post" ["writer", "slug"] (blogEntry .null) =
        .error (.missingIdentifier "Post" "slug") := by
  have generated : ∃ schema, Schema.generate blog {} = .ok schema :=
    refusal?_eq_none.1 (by decide +kernel)
  obtain ⟨schema, generated⟩ := generated
  have unaliased : ∀ entry ∈ ({} : Settings).fieldAliases.entries, entry.2.entries = [] := by
    simp [Table.empty]
  have member : blog.models[1] ∈ blog.models := List.getElem_mem _
  have identified : blog.models[1].identifiers? = some ["writer", "slug"] := by decide +kernel
  have alone : ∀ name, blog.models[1].compoundName? = some name →
      ∀ other ∈ blog.models, other.compoundName? = some name → other = blog.models[1] := by
    have apart : ∀ other ∈ blog.models,
        other.compoundName? = blog.models[1].compoundName? → other = blog.models[1] := by
      decide +kernel
    exact fun name own other present same => apart other present (same.trans own.symm)
  have fits := uniqueClause_fits_uniqueInput generated unaliased member identified alone
  obtain ⟨-, -, addressed⟩ := fits (blogEntry (.string "first"))
  obtain ⟨unique, field, value, clause, found, fields, addresses⟩ := addressed rfl
  obtain ⟨-, refused, -⟩ := fits (blogEntry .null)
  exact ⟨schema, unique, field, value, generated, found, fields, clause, addresses,
    (refused _).2 ⟨"slug", rfl, rfl⟩⟩

end GraphBinding
