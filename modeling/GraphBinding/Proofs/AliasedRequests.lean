import GraphBinding.Json.Printer
import GraphBinding.Proofs.ExposedValues
import GraphBinding.Proofs.Objects
import GraphBinding.Resolver

namespace GraphBinding

/-! Requests under exposed names.

Whatever names the filter of a request uses, the resolver asks the data client the same. -/

namespace Projection

/-- Every field that is answered with filtered records declares a filter. -/
theorem Makes.where_of_source {document : Document} {settings : Settings} {output : OutputField}
    {source : FieldSource} (makes : Makes document settings output)
    (resolved : output.source = some source) :
    (∃ model relation, source = .relationOne model relation) ∨
      ∃ declared, output.arguments.find? "where" = some declared := by
  cases makes with
  | property _ _ made =>
      rcases outputField_ok made with ⟨-, -, paged⟩ | ⟨-, -, one⟩
      · rw [paged]
        exact .inr ⟨_, rfl⟩
      · exact .inl ⟨_, _, one source resolved⟩
  | page _ ofPage =>
      rw [fields_listResult] at ofPage
      simp only [List.mem_cons, List.not_mem_nil, or_false] at ofPage
      rcases ofPage with rfl | rfl | rfl <;> cases resolved
  | accessor _ made => rcases made with rfl | rfl <;> exact .inr ⟨_, rfl⟩

end Projection

namespace RequestArguments

theorem filterOf_null {schema : Schema} {declared : Option TypeRef} {raw : Json}
    (given : raw.get? "where" = some .null) : filterOf schema declared raw = none := by
  simp only [filterOf, given]

theorem filterOf_some {schema : Schema} {declared : TypeRef} {raw value : Json}
    (given : raw.get? "where" = some value) (present : value ≠ .null) :
    filterOf schema (some declared) raw = some (schema.nativeValue declared.baseName value) := by
  cases value with
  | null => exact absurd rfl present
  | _ => simp only [filterOf, given]

theorem get?_insert_where (members : List (String × Json)) (value : Json) :
    (Json.object (Entries.insert members "where" value)).get? "where" = some value := by
  rw [Json.get?, Entries.find?_insert, if_pos rfl]

theorem ofRequest_insert_where {plain aliased : Schema} {parent field : String}
    {given native : Json} {definition : OutputField} {declared : TypeRef}
    (plainField : plain.field? parent field = some definition)
    (aliasedField : aliased.field? parent field = some definition)
    (filtered : definition.arguments.find? "where" = some declared)
    (noNull : given = .null ↔ native = .null)
    (same : aliased.nativeValue declared.baseName given =
      plain.nativeValue declared.baseName native)
    (members : List (String × Json)) :
    ofRequest aliased parent field (.object (Entries.insert members "where" given)) =
      ofRequest plain parent field (.object (Entries.insert members "where" native)) := by
  have others : ∀ argument : PagingArgument,
      paging parent field (.object (Entries.insert members "where" given)) argument =
        paging parent field (.object (Entries.insert members "where" native)) argument := by
    intro argument
    have apart : "where" ≠ argument.name := by cases argument <;> decide
    simp only [paging, Json.get?, Entries.find?_insert, if_neg apart]
  have filters : filterOf aliased (some declared) (.object (Entries.insert members "where" given)) =
      filterOf plain (some declared) (.object (Entries.insert members "where" native)) := by
    by_cases empty : native = .null
    · subst empty
      have none := noNull.2 rfl
      rw [none, filterOf_null (get?_insert_where _ _), filterOf_null (get?_insert_where _ _)]
    · have present : given ≠ .null := fun null => empty (noNull.1 null)
      rw [filterOf_some (get?_insert_where _ _) present,
        filterOf_some (get?_insert_where _ _) empty, same]
  simp only [ofRequest, plainField, aliasedField, others, filtered, filters]

end RequestArguments

namespace Schema.Aliased

variable {plain aliased : Schema} {runtime : RuntimeSettings} {context : Context}
  {type field : String} {parent given native : Json}

/-- A resolution depends on its arguments only by the request that is made of them. -/
theorem resolve (shown : plain.Aliased aliased)
    (requests : ∀ definition source, plain.field? type field = some definition →
      definition.source = some source → (∀ model relation, source ≠ .relationOne model relation) →
      RequestArguments.ofRequest aliased type field given =
        RequestArguments.ofRequest plain type field native) :
    Resolver.resolve ⟨aliased, runtime⟩ context type field parent given =
      Resolver.resolve ⟨plain, runtime⟩ context type field parent native := by
  have sameClient : Resolver.client ⟨aliased, runtime⟩ context =
      Resolver.client ⟨plain, runtime⟩ context := by
    simp only [Resolver.client, shown.graph]
  have sameClause : Resolver.parentClause ⟨aliased, runtime⟩ =
      Resolver.parentClause ⟨plain, runtime⟩ := by
    funext model parent
    simp only [Resolver.parentClause, Schema.identifiers?, shown.identifiers]
  unfold Resolver.resolve
  rw [shown.field? type field]
  cases found : plain.field? type field with
  | none => rfl
  | some definition =>
      cases sourced : definition.source with
      | none => simp only [sourced]
      | some source =>
          simp only [sourced, sameClient]
          cases source with
          | relationOne model relation =>
              simp only [Resolver.relationOne, sameClause]
          | relationMany model relation target =>
              simp only [requests definition _ found sourced (by simp), Resolver.relationMany,
                sameClause]
          | findUnique model => simp only [requests definition _ found sourced (by simp)]
          | findMany model => simp only [requests definition _ found sourced (by simp)]

end Schema.Aliased

theorem Schema.exposedValue_eq_null {plain aliased : Schema} {type : String} {value : Json} :
    exposedValue plain aliased type value = .null ↔ value = .null := by
  cases value with
  | array items => simp [exposedValue]
  | object members =>
      rw [exposedValue]
      split <;> simp
  | _ => rw [exposedValue] <;> simp

/-- Aliasing is transparent to the data client.  Whatever aliases follow one another on a schema
that declares none, a value under the exposed names is mapped to the value under the native
names, and a request that filters by it is resolved as the same request without aliases is.
Objects repeat no name, as those of a collapsed value do not. -/
theorem aliases_are_transparent {document : Document} {settings : Settings} {graph : TypeGraph}
    {draft : Draft} (undeclared : ∀ entry ∈ settings.fieldAliases.entries, entry.2.entries = [])
    (projected : Draft.project { document, settings } = (.ok graph, draft))
    (renamings : List (String × String × String)) {type : String} {value : Json}
    (distinct : value.DistinctNames) (fits : (draft.finish graph).Fits type value) :
    let plain := draft.finish graph
    let aliased := (draft.aliasAll renamings).finish graph
    let exposed := Schema.exposedValue plain aliased type value
    aliased.nativeValue type exposed = value ∧
      ∀ (runtime : RuntimeSettings) (context : Context) (parentType field : String) (parent : Json)
        (members : List (String × Json)),
        (∀ definition declared, plain.field? parentType field = some definition →
          definition.arguments.find? "where" = some declared → declared.baseName = type) →
        Resolver.resolve ⟨aliased, runtime⟩ context parentType field parent
            (.object (Entries.insert members "where" exposed)) =
          Resolver.resolve ⟨plain, runtime⟩ context parentType field parent
            (.object (Entries.insert members "where" value)) := by
  intro plain aliased exposed
  obtain ⟨middle, assembled, declared⟩ := Draft.assembled_of_projected projected
  rw [Projection.outcome_declareAliases_none undeclared] at declared
  cases declared
  have builds := Projection.builds_assemble { document, settings }
  rw [assembled] at builds
  have shown : plain.Aliased aliased := (draft.renames_aliasAll renamings).aliased builds graph
  have restored : aliased.nativeValue type exposed = value :=
    shown.nativeValue_exposedValue distinct fits
  refine ⟨restored, fun runtime context parentType field parent members filtered => ?_⟩
  have unaliased : ∀ type key, plain.aliases.nativeName? type key = none := by
    intro type key
    have none : plain.aliases = {} := builds.aliases
    rw [none]
    rfl
  refine shown.resolve fun definition source found sourced notOne => ?_
  obtain ⟨object, isObject, isField⟩ := Option.bind_eq_some_iff.1 found
  have made := Projection.makes_of_mem_objects assembled
    (Projection.mem_objects_of_object? isObject) (ObjectType.mem_fields_of_field? isField)
  rcases made.where_of_source sourced with ⟨model, relation, one⟩ | ⟨declared, filter⟩
  · exact absurd one (notOne model relation)
  · have ofType : declared.baseName = type := filtered definition declared found filter
    refine RequestArguments.ofRequest_insert_where found ?_ filter Schema.exposedValue_eq_null ?_ _
    · rw [shown.field?, found]
    · rw [ofType, restored, Schema.nativeValue_of_unaliased unaliased distinct]

/-- Aliases of two types.  The third is refused, and the last takes a native name that the
first has set free. -/
def layeredAliases : List (String × String × String) :=
  [("UserWhereInput", "name", "fullName"), ("StringFilter", "equals", "is"),
    ("UserWhereInput", "age", "fullName"), ("UserWhereInput", "age", "name")]

def eitherCondition (first second : String × Json) : Json :=
  .object [("OR", .array [.object [first], .object [second]])]

def nativeCondition : Json :=
  eitherCondition ("name", .object [("equals", .string "Ada")])
    ("age", .object [("gt", .integer 17)])

def exposedCondition : Json :=
  eitherCondition ("fullName", .object [("is", .string "Ada")])
    ("name", .object [("gt", .integer 17)])

theorem aliases_are_transparent_in_layers :
    ∃ graph draft, Draft.project { document := people, settings := {} } = (.ok graph, draft) ∧
      let plain := draft.finish graph
      let aliased := (draft.aliasAll layeredAliases).finish graph
      let exposed := Schema.exposedValue plain aliased "UserWhereInput" nativeCondition
      exposed.text = exposedCondition.text ∧
        aliased.nativeValue "UserWhereInput" exposed = nativeCondition ∧
        ∀ context parent, Resolver.resolve ⟨aliased, {}⟩ context "Query" "users" parent
            (.object [("where", exposed), ("take", .integer 5)]) =
          Resolver.resolve ⟨plain, {}⟩ context "Query" "users" parent
            (.object [("where", nativeCondition), ("take", .integer 5)]) := by
  have checked : ∃ graph draft, Draft.project { document := people, settings := {} } =
      (.ok graph, draft) ∧
        (draft.finish graph).Fits "UserWhereInput" nativeCondition ∧
        (Schema.exposedValue (draft.finish graph) ((draft.aliasAll layeredAliases).finish graph)
          "UserWhereInput" nativeCondition).text = exposedCondition.text ∧
        (((draft.finish graph).field? "Query" "users").bind
          (·.arguments.find? "where")).map TypeRef.baseName = some "UserWhereInput" :=
    Draft.projected_of_check (by decide +kernel)
  obtain ⟨graph, draft, projected, fits, shown, filtered⟩ := checked
  have undeclared : ∀ entry ∈ ({} : Settings).fieldAliases.entries, entry.2.entries = [] := by
    decide
  have distinct : nativeCondition.DistinctNames := by decide
  obtain ⟨restored, resolved⟩ :=
    aliases_are_transparent undeclared projected layeredAliases distinct fits
  refine ⟨graph, draft, projected, shown, restored, fun context parent => ?_⟩
  refine resolved {} context "Query" "users" parent [("where", .null), ("take", .integer 5)] ?_
  intro definition declared found filter
  simpa [found, filter] using filtered

end GraphBinding
