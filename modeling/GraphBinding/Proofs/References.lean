import GraphBinding.Proofs.AliasedSchema
import GraphBinding.Proofs.DocumentTypes

namespace GraphBinding

/-! What the fields of input types refer to.

Every name that an input type mentions is that of a scalar, of an enum, or of a type that was
asked for as well, by the same document.
-/

/-- The names of types that a schema need not define. -/
def nativeNames : List String := idType :: Scalar.all.map Scalar.name

theorem graphName_mem_nativeNames (scalar : Scalar) (isId : Bool) (projection : IdProjection) :
    scalar.graphName isId projection ∈ nativeNames := by
  cases scalar <;> cases isId <;> cases projection <;> decide

theorem Field.graphName_of_scalar {field : Field} {model : Model} {projection : IdProjection}
    {name : String} (kind : field.kind = .scalar)
    (named : field.graphName model projection = .ok name) : name ∈ nativeNames := by
  simp only [graphName, kind] at named
  cases known : field.scalar model with
  | error reason => rw [known] at named; cases named
  | ok scalar =>
      rw [known] at named
      cases named
      exact graphName_mem_nativeNames _ _ _

theorem Field.graphName_of_ne_scalar {field : Field} {model : Model} {projection : IdProjection}
    {name : String} (kind : field.kind ≠ .scalar)
    (named : field.graphName model projection = .ok name) : name = field.type := by
  unfold graphName at named
  split at named
  · rename_i scalar
    exact absurd scalar kind
  · cases named
    rfl

theorem InputType.refers_ofFields {type name : String} {fields : List InputField}
    (refers : (ofFields type fields).Refers name) :
    ∃ field ∈ fields, field.type.baseName = name := by
  obtain ⟨entry, member, named⟩ := refers
  exact ⟨entry.2, (Table.mem_ofValues member).1, named⟩

/-- Of several fields of one name the last counts. -/
theorem InputType.refers_ofFields_append {type : String} (first : List InputField)
    {last : List InputField} (distinct : (last.map InputField.name).Nodup) {field : InputField}
    (member : field ∈ last) : (ofFields type (first ++ last)).Refers field.type.baseName :=
  ⟨(field.name, field),
    (Table.find?_eq_some _ _ _).1 (Table.find?_ofValues_append first distinct member), rfl⟩

namespace Filter

variable {type name : String} {field : InputField}

theorem baseName_comparable (member : field ∈ comparable type) : field.type.baseName = type := by
  have all : (comparable type).map (·.type.baseName) = List.replicate 7 type := rfl
  exact List.eq_of_mem_replicate (all ▸ List.mem_map.2 ⟨field, member, rfl⟩)

theorem baseName_text (member : field ∈ text type) : field.type.baseName = type := by
  have all : (text type).map (·.type.baseName) = List.replicate 6 type := rfl
  exact List.eq_of_mem_replicate (all ▸ List.mem_map.2 ⟨field, member, rfl⟩)

theorem baseName_scalarOperators {graphName : String} {native : Scalar}
    {operators : List InputField} (known : scalarOperators? graphName native = some operators)
    (member : field ∈ operators) : field.type.baseName ∈ nativeNames := by
  unfold scalarOperators? at known
  split at known
  · cases known
    split at member
    · rw [baseName_text member]
      decide
    · rw [baseName_comparable member]
      decide
  iterate 5
    cases known
    rw [baseName_comparable member]
    decide
  all_goals
    cases known
  all_goals
    revert field
    decide

/-- The operators refer to nothing else, and the negation to the filter itself. -/
theorem refers_negatable {operators : List InputField}
    (refers : (negatable type operators).Refers name) :
    (∃ field ∈ operators, field.type.baseName = name) ∨ name = type := by
  obtain ⟨field, member, named⟩ := InputType.refers_ofFields refers
  rcases List.mem_append.1 member with operator | negation
  · exact .inl ⟨field, operator, named⟩
  · rw [List.mem_singleton.1 negation] at named
    exact .inr named.symm

theorem refers_ofEnum {enumName : String} (refers : (ofEnum enumName).Refers name) :
    name = enumName ∨ name = enumFilterName enumName := by
  rcases refers_negatable refers with ⟨field, member, named⟩ | itself
  · have all : (equality enumName ++ membership enumName).map (·.type.baseName) =
        List.replicate 3 enumName := rfl
    exact .inl (named.symm.trans
      (List.eq_of_mem_replicate (all ▸ List.mem_map.2 ⟨field, member, rfl⟩)))
  · exact .inr itself

theorem refers_ofRelationList {model : String} (refers : (ofRelationList model).Refers name) :
    name = whereInputName model := by
  obtain ⟨field, member, named⟩ := InputType.refers_ofFields refers
  have all : [one "every" (whereInputName model), one "some" (whereInputName model),
      one "none" (whereInputName model)].map (·.type.baseName) =
        List.replicate 3 (whereInputName model) := rfl
  exact named.symm.trans (List.eq_of_mem_replicate (all ▸ List.mem_map.2 ⟨field, member, rfl⟩))

theorem refers_ofScalarList {element : String} (refers : (ofScalarList element).Refers name) :
    name = element ∨ name = "Boolean" := by
  obtain ⟨field, member, named⟩ := InputType.refers_ofFields refers
  simp only [List.mem_cons, List.not_mem_nil, or_false] at member
  rcases member with rfl | rfl | rfl | rfl | rfl
  · exact .inl named.symm
  · exact .inl named.symm
  · exact .inl named.symm
  · exact .inl named.symm
  · exact .inr named.symm

theorem refers_string (refers : string.Refers name) :
    name = "String" ∨ name = queryModeName ∨ name = nestedStringFilterName := by
  obtain ⟨field, member, named⟩ := InputType.refers_ofFields refers
  rcases List.mem_append.1 member with operator | reference
  · exact .inl (named.symm.trans (baseName_text operator))
  · simp only [List.mem_cons, List.not_mem_nil, or_false] at reference
    rcases reference with rfl | rfl
    · exact .inr (.inl named.symm)
    · exact .inr (.inr named.symm)

theorem string_refers_mode : string.Refers queryModeName :=
  ⟨("mode", one "mode" queryModeName), by decide +kernel, rfl⟩

theorem string_refers_nested : string.Refers nestedStringFilterName :=
  ⟨("not", one "not" nestedStringFilterName), by decide +kernel, rfl⟩

theorem refers_nestedString (refers : nestedString.Refers name) : name = "String" := by
  obtain ⟨field, member, named⟩ := InputType.refers_ofFields refers
  exact named.symm.trans (baseName_text member)

end Filter

/-- Every reference in a document has what it refers to, and fields of a model have names of
their own. -/
structure Document.Consistent (document : Document) : Prop where
  relations : ∀ model ∈ document.models, ∀ field ∈ model.fields, field.kind = .relation →
    field.type ∈ document.models.map Model.name
  enumerations : ∀ model ∈ document.models, ∀ field ∈ model.fields, field.kind = .enumeration →
    field.type ∈ document.enums.map Enum.name
  /-- Records are identified by scalars and enums. -/
  identifiers : ∀ model ∈ document.models, ∀ name ∈ model.identifiers?.getD [],
    ∀ field ∈ model.field? name, field.kind = .scalar ∨ field.kind = .enumeration
  distinctFields : ∀ model ∈ document.models, (model.fields.map Field.name).Nodup

/-- A scalar, an enum, or an input type of the catalog. -/
def Catalog.Knows (catalog : Catalog) (document : Document) (name : String) : Prop :=
  name ∈ nativeNames ∨ name ∈ document.enums.map Enum.name ∨ name ∈ catalog.enums.keys ∨
    name ∈ catalog.inputs.keys

namespace Catalog.Serves

variable {document : Document} {projection : IdProjection} {catalog : Catalog} {model : Model}
  {field : Field} {name : String}

theorem knows_whereInputName (serves : catalog.Serves document projection)
    (named : name ∈ document.models.map Model.name) :
    catalog.Knows document (whereInputName name) := by
  obtain ⟨model, member, rfl⟩ := List.mem_map.1 named
  exact .inr (.inr (.inr (mem_keys_of_find? (serves.find?_whereInput member))))

/-- A filter that is made for a field refers to types that are there. -/
theorem knows_field (serves : catalog.Serves document projection) (consistent : document.Consistent)
    (ofDocument : model ∈ document.models) (ofModel : field ∈ model.fields)
    {request : Catalog.Request} (asked : field.request? projection = some request)
    {type : InputType} (made : request.finished? = some type)
    (present : type.name ∈ catalog.inputs.keys) (refers : type.Refers name) :
    catalog.Knows document name := by
  unfold Field.request? at asked
  split at asked
  · obtain ⟨scalar, -, rfl⟩ := Option.map_eq_some_iff.1 asked
    dsimp only at made
    split at made
    · cases made
      rcases Filter.refers_ofScalarList refers with rfl | rfl
      · exact .inl (graphName_mem_nativeNames _ _ _)
      · exact .inl (by decide)
    · rw [Catalog.Request.finished?] at made
      split at made
      · cases made
      · obtain ⟨operators, known, rfl⟩ := Option.map_eq_some_iff.1 made
        rcases Filter.refers_negatable refers with ⟨operator, member, rfl⟩ | rfl
        · exact .inl (Filter.baseName_scalarOperators known member)
        · exact .inr (.inr (.inr present))
  · rename_i kind _
    cases asked
    cases made
    rcases Filter.refers_ofScalarList refers with rfl | rfl
    · exact .inr (.inl (consistent.enumerations model ofDocument field ofModel kind))
    · exact .inl (by decide)
  · rename_i kind _
    cases asked
    cases made
    rcases Filter.refers_ofEnum refers with rfl | rfl
    · exact .inr (.inl (consistent.enumerations model ofDocument field ofModel kind))
    · exact .inr (.inr (.inr present))
  · rename_i kind _
    cases asked
    cases made
    rw [Filter.refers_ofRelationList refers]
    exact serves.knows_whereInputName (consistent.relations model ofDocument field ofModel kind)
  · cases asked
  · cases asked

theorem knows_filterName (serves : catalog.Serves document projection)
    (consistent : document.Consistent) (ofDocument : model ∈ document.models)
    (ofModel : field ∈ model.fields) (filtered : field.filterName? projection = some name) :
    catalog.Knows document name := by
  unfold Field.filterName? at filtered
  split at filtered
  · rename_i kind _
    cases filtered
    exact serves.knows_whereInputName (consistent.relations model ofDocument field ofModel kind)
  · obtain ⟨request, asked, answered⟩ := Option.bind_eq_some_iff.1 filtered
    have member := Document.mem_requests.2 (.field ofDocument ofModel asked)
    exact .inr (.inr (.inr (serves.present member answered)))

theorem knows_whereInput (serves : catalog.Serves document projection)
    (consistent : document.Consistent) (ofDocument : model ∈ document.models)
    (refers : (model.whereInput projection).Refers name) : catalog.Knows document name := by
  obtain ⟨condition, member, rfl⟩ := InputType.refers_ofFields refers
  rcases List.mem_append.1 member with connective | isCondition
  · have itself : condition.type.baseName = whereInputName model.name := by
      simp only [List.mem_cons, List.not_mem_nil, or_false] at connective
      rcases connective with rfl | rfl | rfl <;> rfl
    rw [itself]
    exact serves.knows_whereInputName (List.mem_map.2 ⟨model, ofDocument, rfl⟩)
  · obtain ⟨field, ofModel, conditioned⟩ := List.mem_filterMap.1 isCondition
    obtain ⟨name, filtered, rfl⟩ := Option.map_eq_some_iff.1 conditioned
    exact serves.knows_filterName consistent ofDocument ofModel filtered

/-- The types of identifiers are those of scalars and enums. -/
theorem knows_identifierType (consistent : document.Consistent)
    (ofDocument : model ∈ document.models) {typed : String × String}
    (member : typed ∈ model.typedIdentifiers projection (model.identifiers?.getD [])) :
    catalog.Knows document typed.2 := by
  unfold Model.typedIdentifiers at member
  cases types : (model.identifiers?.getD []).mapM (Projection.identifierType model projection) with
  | error reason =>
      rw [types] at member
      cases member
  | ok typing =>
      rw [types] at member
      obtain ⟨identifier, isIdentifier, made⟩ := exists_of_mem_mapM types member
      unfold Projection.identifierType at made
      split at made
      · rename_i field found
        have identifying :=
          consistent.identifiers model ofDocument identifier isIdentifier field found
        have ofModel : field ∈ model.fields := List.mem_of_find?_eq_some found
        cases named : field.graphName model projection with
        | error reason => rw [named] at made; cases made
        | ok type =>
            rw [named] at made
            cases made
            rcases identifying with kind | kind
            · exact .inl (Field.graphName_of_scalar kind named)
            · rw [Field.graphName_of_ne_scalar (by simp [kind]) named]
              exact .inr (.inl (consistent.enumerations model ofDocument field ofModel kind))
      · cases made

theorem knows_compound (consistent : document.Consistent) (ofDocument : model ∈ document.models)
    {request : Catalog.Request}
    (asked : model.compound? projection (model.identifiers?.getD []) = some request)
    {type : InputType} (made : request.finished? = some type) (refers : type.Refers name) :
    catalog.Knows document name := by
  unfold Model.compound? at asked
  split at asked
  · cases asked
  · cases asked
    cases made
    obtain ⟨field, member, rfl⟩ := InputType.refers_ofFields refers
    obtain ⟨typed, isIdentifier, rfl⟩ := List.mem_map.1 member
    exact knows_identifierType consistent ofDocument isIdentifier

theorem knows_uniqueInput (serves : catalog.Serves document projection)
    (consistent : document.Consistent) (ofDocument : model ∈ document.models)
    (refers : (model.uniqueInput projection (model.identifiers?.getD [])).Refers name) :
    catalog.Knows document name := by
  obtain ⟨field, member, rfl⟩ := InputType.refers_ofFields refers
  rw [List.mem_singleton.1 member]
  unfold Model.keyField
  split
  · rename_i identifier type types
    have isIdentifier : (identifier, type) ∈
        model.typedIdentifiers projection (model.identifiers?.getD []) := by
      rw [types]
      exact List.mem_singleton_self _
    exact knows_identifierType consistent ofDocument isIdentifier
  · rename_i several
    have asked : model.compound? projection (model.identifiers?.getD []) = some (.compoundInput
        (Projection.compoundInputName model.name (model.identifiers?.getD []))
        ((model.typedIdentifiers projection (model.identifiers?.getD [])).map fun typed =>
          { name := typed.1, type := (TypeRef.named typed.2).required })) := by
      unfold Model.compound?
      split
      · rename_i typed types
        exact (several _ _ types).elim
      · rfl
    have member := Document.mem_requests.2 (.compound ofDocument asked)
    exact .inr (.inr (.inr (serves.present member rfl)))

/-- The catalog of a consistent document is closed. -/
theorem knows (serves : catalog.Serves document projection) (consistent : document.Consistent)
    {key : String} {type : InputType} (found : catalog.inputs.find? key = some type)
    (refers : type.Refers name) : catalog.Knows document name := by
  have present : type.name ∈ catalog.inputs.keys :=
    serves.stems.named.inputs found ▸ mem_keys_of_find? found
  cases serves.stems.inputs found with
  | string _ mode nested =>
      rcases Filter.refers_string refers with rfl | rfl | rfl
      · exact .inl (by decide)
      · exact .inr (.inr (.inl mode))
      · exact .inr (.inr (.inr nested))
  | nested =>
      rw [Filter.refers_nestedString refers]
      exact .inl (by decide)
  | finished member made =>
      cases Document.mem_requests.1 member with
      | field ofDocument ofModel asked =>
          exact serves.knows_field consistent ofDocument ofModel asked made present refers
      | whereInput ofDocument =>
          cases made
          exact serves.knows_whereInput consistent ofDocument refers
      | compound ofDocument asked => exact knows_compound consistent ofDocument asked made refers
      | uniqueInput ofDocument =>
          cases made
          exact serves.knows_uniqueInput consistent ofDocument refers

end Catalog.Serves

end GraphBinding
