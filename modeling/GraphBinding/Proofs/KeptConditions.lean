import GraphBinding.Proofs.ExposedValues
import GraphBinding.Proofs.Objects
import GraphBinding.Proofs.Precedence
import Mathlib.Data.List.Forall2

namespace GraphBinding

/-! Which conditions of a request reach the data client.

Mapped members are written into an object one after the other, so that a member is lost where two
keys get one name.  Two declared keys never do.  But an alias hides the native name of its field,
and a request that gives both has one condition less when it is mapped.
-/

namespace Schema

/-- `result` has everything that `value` has, position by position, under native names. -/
inductive Mirrors (schema : Schema) : String → Json → Json → Prop where
  /-- What is declared as some other type is copied. -/
  | copied {type : String} {value result : Json} (unknown : schema.input? type = none)
      (same : result = value) : Mirrors schema type value result
  | leaf {type : String} {value result : Json} (noArray : ∀ items, value ≠ .array items)
      (noObject : ∀ members, value ≠ .object members) (same : result = value) :
      Mirrors schema type value result
  | array {type : String} {input : InputType} {items results : List Json}
      (known : schema.input? type = some input) (size : items.length = results.length)
      (each : ∀ pair ∈ items.zip results, Mirrors schema type pair.1 pair.2) :
      Mirrors schema type (.array items) (.array results)
  | object {type : String} {input : InputType} {members results : List (String × Json)}
      (known : schema.input? type = some input) (size : members.length = results.length)
      (names : ∀ pair ∈ members.zip results, ∀ field, input.fields.find? pair.1.1 = some field →
        pair.2.1 = schema.aliases.nativeName type pair.1.1)
      (values : ∀ pair ∈ members.zip results, ∀ field, input.fields.find? pair.1.1 = some field →
        Mirrors schema field.type.baseName pair.1.2 pair.2.2)
      (others : ∀ pair ∈ members.zip results, input.fields.find? pair.1.1 = none →
        pair.2 = pair.1) :
      Mirrors schema type (.object members) (.object results)

/-- No object at an input type has beside a declared key, as a key of its own, the native name
that this key hides. -/
inductive KeepsApart (schema : Schema) : String → Json → Prop where
  | copied {type : String} {value : Json} (unknown : schema.input? type = none) :
      KeepsApart schema type value
  | leaf {type : String} {value : Json} (noArray : ∀ items, value ≠ .array items)
      (noObject : ∀ members, value ≠ .object members) : KeepsApart schema type value
  | array {type : String} {items : List Json} (each : ∀ item ∈ items, KeepsApart schema type item) :
      KeepsApart schema type (.array items)
  | object {type : String} {input : InputType} {members : List (String × Json)}
      (known : schema.input? type = some input)
      (apart : ∀ key ∈ Entries.keys members, key ∈ input.fields.keys →
        ∀ other ∈ Entries.keys members, other ∉ input.fields.keys →
          schema.aliases.nativeName type key ≠ other)
      (each : ∀ entry ∈ members, ∀ field, input.fields.find? entry.1 = some field →
        KeepsApart schema field.type.baseName entry.2) :
      KeepsApart schema type (.object members)

variable {schema : Schema} {type : String} {input : InputType}

/-- The name under which a member is written. -/
def writtenName (schema : Schema) (input : InputType) (type key : String) : String :=
  if key ∈ input.fields.keys then schema.aliases.nativeName type key else key

theorem nativeMember_declared {entry : String × Json} {field : InputField}
    (found : input.fields.find? entry.1 = some field) :
    schema.nativeMember input type entry =
      (schema.aliases.nativeName type entry.1,
        schema.nativeValue field.type.baseName entry.2) := by
  simp only [nativeMember, found]

theorem nativeMember_undeclared {entry : String × Json}
    (absent : input.fields.find? entry.1 = none) :
    schema.nativeMember input type entry = entry := by
  simp only [nativeMember, absent]

theorem keys_nativeMembers (members : List (String × Json)) :
    Entries.keys (members.map (schema.nativeMember input type)) =
      (Entries.keys members).map (schema.writtenName input type) := by
  rw [Entries.keys, Entries.keys, List.map_map, List.map_map]
  refine List.map_congr_left fun entry _ => ?_
  simp only [Function.comp_apply, writtenName]
  cases found : input.fields.find? entry.1 with
  | none => rw [nativeMember_undeclared found, if_neg ((Table.find?_eq_none _ _).1 found)]
  | some field =>
      have present : entry.1 ∈ input.fields.keys :=
        (Table.contains_iff _ _).1 (by rw [Table.contains, found, Option.isSome_some])
      rw [nativeMember_declared found, if_pos present]

theorem nativeName_ne_of_nodup {names : List String}
    (apart : (names.map (schema.writtenName input type)).Nodup) {key other : String}
    (inNames : key ∈ names) (declared : key ∈ input.fields.keys) (otherIn : other ∈ names)
    (undeclared : other ∉ input.fields.keys) : schema.aliases.nativeName type key ≠ other := by
  intro met
  have same := List.inj_on_of_nodup_map apart inNames otherIn
  rw [writtenName, if_pos declared, writtenName, if_neg undeclared] at same
  exact undeclared (same met ▸ declared)

/-- Where no two exposed names stand for one native name, only a hidden name can meet another. -/
theorem nodup_writtenNames {names : List String} (distinct : names.Nodup)
    (injective : ∀ first ∈ input.fields.keys, ∀ second ∈ input.fields.keys,
      schema.aliases.nativeName type first = schema.aliases.nativeName type second →
        first = second)
    (apart : ∀ key ∈ names, key ∈ input.fields.keys → ∀ other ∈ names,
      other ∉ input.fields.keys → schema.aliases.nativeName type key ≠ other) :
    (names.map (schema.writtenName input type)).Nodup := by
  refine List.Nodup.map_on ?_ distinct
  intro first firstIn second secondIn same
  by_cases one : first ∈ input.fields.keys <;> by_cases two : second ∈ input.fields.keys
  · rw [writtenName, if_pos one, writtenName, if_pos two] at same
    exact injective first one second two same
  · rw [writtenName, if_pos one, writtenName, if_neg two] at same
    exact absurd same (apart first firstIn one second secondIn two)
  · rw [writtenName, if_neg one, writtenName, if_pos two] at same
    exact absurd same.symm (apart second secondIn two first firstIn one)
  · rwa [writtenName, if_neg one, writtenName, if_neg two] at same

theorem forall_mem_zip_map {α β : Type} (f : α → β) (items : List α) {holds : α × β → Prop} :
    (∀ pair ∈ items.zip (items.map f), holds pair) ↔ ∀ item ∈ items, holds (item, f item) := by
  rw [← List.map_prod_left_eq_zip, List.forall_mem_map]

theorem Mirrors.of_object {members results : List (String × Json)}
    (mirrors : schema.Mirrors type (.object members) (.object results))
    (known : schema.input? type = some input) :
    members.length = results.length ∧ ∀ pair ∈ members.zip results,
      (∀ field, input.fields.find? pair.1.1 = some field →
        pair.2.1 = schema.aliases.nativeName type pair.1.1 ∧
          Mirrors schema field.type.baseName pair.1.2 pair.2.2) ∧
      (input.fields.find? pair.1.1 = none → pair.2 = pair.1) := by
  cases mirrors with
  | copied unknown => rw [known] at unknown; cases unknown
  | leaf noArray noObject => exact absurd rfl (noObject members)
  | object same size names values others =>
      rw [known] at same
      cases same
      exact ⟨size, fun pair member => ⟨fun field found =>
        ⟨names pair member field found, values pair member field found⟩, others pair member⟩⟩

theorem Mirrors.keys {members results : List (String × Json)}
    (mirrors : schema.Mirrors type (.object members) (.object results))
    (known : schema.input? type = some input) :
    Entries.keys results = (Entries.keys members).map (schema.writtenName input type) := by
  obtain ⟨size, each⟩ := mirrors.of_object known
  rw [← keys_nativeMembers, Entries.keys, Entries.keys, List.map_map]
  refine map_eq_of_forall₂ (List.forall₂_iff_zip.2 ⟨size, fun {entry result} pair => ?_⟩)
  obtain ⟨declared, undeclared⟩ := each (entry, result) pair
  cases found : input.fields.find? entry.1 with
  | none =>
      have copied : result = entry := undeclared found
      rw [Function.comp_apply, nativeMember_undeclared found, copied]
  | some field =>
      have named : result.1 = _ := (declared field found).1
      rw [Function.comp_apply, nativeMember_declared found, named]

/-- Whatever loses no member meets nowhere. -/
theorem KeepsApart.of_mirrors {value : Json}
    (mirrors : schema.Mirrors type value (schema.nativeValue type value)) :
    schema.KeepsApart type value := by
  induction value using Json.induction generalizing type with
  | leaf value noArray noObject => exact .leaf noArray noObject
  | array items ih =>
      rw [nativeValue_array] at mirrors
      cases mirrors with
      | copied unknown => exact .copied unknown
      | leaf noArray => exact absurd rfl (noArray items)
      | array known size each =>
          rw [forall_mem_zip_map] at each
          exact .array fun item member => ih item member (each item member)
  | object members ih =>
      cases known : schema.input? type with
      | none => exact .copied known
      | some input =>
          rw [nativeValue_object known] at mirrors
          have written := mirrors.keys known
          have apart : ((Entries.keys members).map (schema.writtenName input type)).Nodup := by
            rw [← written]
            exact Entries.nodup_keys_collapse _
          rw [Entries.collapse_of_nodup (by rwa [keys_nativeMembers])] at mirrors
          refine .object known (fun key inKeys declared other otherIn undeclared =>
            nativeName_ne_of_nodup apart inKeys declared otherIn undeclared) ?_
          intro entry member field found
          have each := (mirrors.of_object known).2
          rw [forall_mem_zip_map] at each
          obtain ⟨-, mapped⟩ := (each entry member).1 field found
          rw [nativeMember_declared found] at mapped
          exact ih entry member mapped

/-- Where no key meets another, every member keeps its place. -/
theorem KeepsApart.mirrors {value : Json} (apart : schema.KeepsApart type value)
    (distinct : value.DistinctNames)
    (injective : ∀ type input, schema.input? type = some input →
      ∀ first ∈ input.fields.keys, ∀ second ∈ input.fields.keys,
        schema.aliases.nativeName type first = schema.aliases.nativeName type second →
          first = second) :
    schema.Mirrors type value (schema.nativeValue type value) := by
  induction value using Json.induction generalizing type with
  | leaf value noArray noObject =>
      exact .leaf noArray noObject (nativeValue_leaf noArray noObject)
  | array items ih =>
      cases known : schema.input? type with
      | none => exact .copied known (nativeValue_of_not_input known _)
      | some input =>
          rw [Json.DistinctNames, Json.distinctNamesItems_iff] at distinct
          cases apart with
          | copied unknown => rw [known] at unknown; cases unknown
          | leaf noArray => exact absurd rfl (noArray items)
          | array each =>
              rw [nativeValue_array]
              refine .array known (List.length_map _).symm ((forall_mem_zip_map _ _).2 ?_)
              exact fun item member => ih item member (each item member) (distinct item member)
  | object members ih =>
      cases known : schema.input? type with
      | none => exact .copied known (nativeValue_of_not_input known _)
      | some input =>
          rw [Json.DistinctNames, Json.distinctNamesMembers_iff] at distinct
          cases apart with
          | copied unknown => rw [known] at unknown; cases unknown
          | leaf noArray noObject => exact absurd rfl (noObject members)
          | object same apart each =>
              rw [known] at same
              cases same
              have names := nodup_writtenNames distinct.1 (injective type _ known) apart
              rw [nativeValue_object known,
                Entries.collapse_of_nodup (by rwa [keys_nativeMembers])]
              refine .object known (List.length_map _).symm ((forall_mem_zip_map _ _).2 ?_)
                ((forall_mem_zip_map _ _).2 ?_) ((forall_mem_zip_map _ _).2 ?_)
              · intro entry _ field found
                rw [nativeMember_declared found]
              · intro entry member field found
                rw [nativeMember_declared found]
                exact ih entry member (each entry member field found) (distinct.2 entry member)
              · exact fun entry _ absent => nativeMember_undeclared absent

end Schema

/-- In a schema of any session, mapping keeps every member of a value in its place if and only if
the value nowhere has, beside a declared key, the native name that this key hides. -/
theorem nativeValue_mirrors_iff (document : Document) (settings : Settings)
    {events : List Event} (keyed : ∀ event ∈ events, event.Keyed) (graph : TypeGraph)
    (type : String) {value : Json} (distinct : value.DistinctNames) :
    let schema := (Draft.run { document, settings } events).finish graph
    schema.Mirrors type value (schema.nativeValue type value) ↔ schema.KeepsApart type value := by
  intro schema
  refine ⟨.of_mirrors, fun apart => apart.mirrors distinct ?_⟩
  intro type input known first firstIn second secondIn
  have tracks := (Draft.Tracks.new document settings).run keyed
  obtain ⟨created, -, account⟩ := tracks.known known
  exact account.nativeName_injective firstIn secondIn

/-- The names of people are shown as full names, which hides the native name. -/
def hiddenName : Settings where
  fieldAliases := .ofEntries [("UserWhereInput", .ofEntries [("name", "fullName")])]

/-- A condition by a declared key and one by a key that no field has. -/
def apartConditions : Json :=
  .object [("fullName", .object [("equals", .string "Ada")]), ("nickname", .null)]

theorem nativeValue_mirrors_iff_hiddenName :
    apartConditions.DistinctNames ∧ ∃ schema, Schema.generate people hiddenName = .ok schema ∧
      schema.Mirrors "UserWhereInput" apartConditions
        (schema.nativeValue "UserWhereInput" apartConditions) := by
  have distinct : apartConditions.DistinctNames := by decide
  have checked : ∃ schema, Schema.generate people hiddenName = .ok schema ∧
      (schema.input? "UserWhereInput").map (·.fields.keys) =
        some ["AND", "OR", "NOT", "id", "fullName", "age"] ∧
      schema.aliases.nativeName "UserWhereInput" "fullName" = "name" :=
    Schema.generated_of_check (by decide +kernel)
  obtain ⟨schema, generated, shown, native⟩ := checked
  obtain ⟨input, known, names⟩ := Option.map_eq_some_iff.1 shown
  have single (type : String) : schema.KeepsApart type (.object [("equals", .string "Ada")]) := by
    cases filtered : schema.input? type with
    | none => exact .copied filtered
    | some filter =>
        refine .object filtered ?_ ?_
        · intro key inKeys declared other otherIn undeclared
          rw [List.mem_singleton.1 inKeys] at declared
          rw [List.mem_singleton.1 otherIn] at undeclared
          exact absurd declared undeclared
        · intro entry member field _
          rw [List.mem_singleton.1 member]
          exact .leaf (by simp) (by simp)
  have apart : schema.KeepsApart "UserWhereInput" apartConditions := by
    refine .object known ?_ ?_
    · rw [names]
      intro key inKeys declared other otherIn undeclared
      rcases List.mem_pair.1 inKeys with rfl | rfl
      · rcases List.mem_pair.1 otherIn with rfl | rfl
        · exact absurd declared undeclared
        · rw [native]
          decide
      · exact absurd declared (by decide)
    · intro entry member field _
      rcases List.mem_pair.1 member with rfl | rfl
      · exact single _
      · exact .leaf (by simp) (by simp)
  obtain ⟨graph, draft, projected, rfl⟩ := Schema.projected_of_generate generated
  have ran : Draft.run { document := people, settings := hiddenName } [.project] = draft :=
    congrArg Prod.snd projected
  have keyed : ∀ event ∈ [Event.project], event.Keyed := by simp [Event.Keyed]
  have settled := nativeValue_mirrors_iff people hiddenName keyed graph "UserWhereInput" distinct
  rw [ran] at settled
  exact ⟨distinct, _, generated, settled.2 apart⟩

/-- A condition by the declared key and one by the name that it hides. -/
def metConditions : Json :=
  .object [("name", .object [("equals", .string "Bob")]),
    ("fullName", .object [("equals", .string "Ada")])]

/-- The condition on the hidden name is replaced by the other one. -/
theorem hiddenName_loses_condition :
    metConditions.DistinctNames ∧ ∃ schema, Schema.generate people hiddenName = .ok schema ∧
      ((schema.nativeValue "UserWhereInput" metConditions).get? "name").bind
        (fun condition => (condition.get? "equals").bind Json.asString?) = some "Ada" ∧
      ¬ schema.Mirrors "UserWhereInput" metConditions
        (schema.nativeValue "UserWhereInput" metConditions) := by
  have checked : ∃ schema, Schema.generate people hiddenName = .ok schema ∧
      ((schema.nativeValue "UserWhereInput" metConditions).get? "name").bind
        (fun condition => (condition.get? "equals").bind Json.asString?) = some "Ada" ∧
      (schema.input? "UserWhereInput").map (·.fields.keys) =
        some ["AND", "OR", "NOT", "id", "fullName", "age"] ∧
      schema.aliases.nativeName "UserWhereInput" "fullName" = "name" :=
    Schema.generated_of_check (by decide +kernel)
  obtain ⟨schema, generated, mapped, shown, native⟩ := checked
  obtain ⟨input, known, names⟩ := Option.map_eq_some_iff.1 shown
  refine ⟨by decide, schema, generated, mapped, fun mirrors => ?_⟩
  cases Schema.KeepsApart.of_mirrors mirrors with
  | copied unknown => rw [known] at unknown; cases unknown
  | leaf noArray noObject => exact noObject _ rfl
  | object same apart each =>
      rw [known] at same
      cases same
      rw [names] at apart
      exact apart "fullName" (by decide) (by decide) "name" (by decide) (by decide) native

end GraphBinding
