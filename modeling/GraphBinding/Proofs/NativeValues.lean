import GraphBinding.Arguments
import GraphBinding.Proofs.Session

namespace GraphBinding

/-! Request values under native names, and mapping them a second time. -/

theorem Json.induction {motive : Json → Prop}
    (leaf : ∀ value, (∀ items, value ≠ .array items) → (∀ members, value ≠ .object members) →
      motive value)
    (array : ∀ items, (∀ item ∈ items, motive item) → motive (.array items))
    (object : ∀ members, (∀ entry ∈ members, motive entry.2) → motive (.object members)) :
    ∀ value, motive value
  | .array items => array items fun item _ => Json.induction leaf array object item
  | .object members =>
      object members fun (name, value) _ => Json.induction leaf array object value
  | .null => leaf _ (by simp) (by simp)
  | .boolean _ => leaf _ (by simp) (by simp)
  | .integer _ => leaf _ (by simp) (by simp)
  | .real _ => leaf _ (by simp) (by simp)
  | .string _ => leaf _ (by simp) (by simp)
termination_by value => sizeOf value
decreasing_by
  · rename_i member
    have := List.sizeOf_lt_of_mem member
    simp only [Json.array.sizeOf_spec]
    omega
  · rename_i member
    have := List.sizeOf_lt_of_mem member
    simp only [Json.object.sizeOf_spec, Prod.mk.sizeOf_spec] at this ⊢
    omega

namespace Schema

/-- One member of an object that stands at an input type. -/
def nativeMember (schema : Schema) (input : InputType) (type : String) (entry : String × Json) :
    String × Json :=
  match input.fields.find? entry.1 with
  | some field =>
      (schema.aliases.nativeName type entry.1, schema.nativeValue field.type.baseName entry.2)
  | none => entry

variable {schema : Schema} {type : String} {input : InputType}

theorem nativeItems_eq_map (items : List Json) :
    schema.nativeItems type items = items.map (schema.nativeValue type) := by
  induction items with
  | nil => rw [nativeItems, List.map_nil]
  | cons item rest ih => rw [nativeItems, ih, List.map_cons]

theorem nativeMembers_eq_map (members : List (String × Json)) :
    schema.nativeMembers input type members = members.map (schema.nativeMember input type) := by
  induction members with
  | nil => rw [nativeMembers, List.map_nil]
  | cons entry rest ih =>
      obtain ⟨key, value⟩ := entry
      rw [nativeMembers, ih, List.map_cons]
      cases found : input.fields.find? key <;> simp only [nativeMember, found]

theorem nativeValue_array (items : List Json) :
    schema.nativeValue type (.array items) = .array (items.map (schema.nativeValue type)) := by
  rw [nativeValue, nativeItems_eq_map]

theorem nativeValue_object (known : schema.input? type = some input)
    (members : List (String × Json)) :
    schema.nativeValue type (.object members) =
      .object (Entries.collapse (members.map (schema.nativeMember input type))) := by
  simp only [nativeValue, known, nativeMembers_eq_map]

theorem nativeValue_leaf {value : Json} (noArray : ∀ items, value ≠ .array items)
    (noObject : ∀ members, value ≠ .object members) : schema.nativeValue type value = value := by
  cases value with
  | array items => exact absurd rfl (noArray items)
  | object members => exact absurd rfl (noObject members)
  | _ => rw [nativeValue] <;> simp

/-- Only values declared as input types have keys to map. -/
theorem nativeValue_of_not_input (unknown : schema.input? type = none) (value : Json) :
    schema.nativeValue type value = value := by
  induction value using Json.induction with
  | leaf value noArray noObject => exact nativeValue_leaf noArray noObject
  | array items ih => rw [nativeValue_array, List.map_congr_left ih, List.map_id']
  | object members => rw [nativeValue, unknown]

/-- No alias of the type stands for a native name that the type exposes as well. -/
def Unambiguous (schema : Schema) (type : String) : Prop :=
  ∀ input, schema.input? type = some input → ∀ key ∈ input.fields.keys,
    schema.aliases.nativeName type key ∈ input.fields.keys →
      schema.aliases.nativeName type key = key

/-- The input types that a value can reach from a type by way of fields that stand under
their native names. -/
inductive ReachesPlainly (schema : Schema) : String → String → Prop where
  | refl (type : String) : ReachesPlainly schema type type
  | step {type target : String} {input : InputType} {key : String} {field : InputField}
      (known : schema.input? type = some input) (found : input.fields.find? key = some field)
      (plain : schema.aliases.nativeName type key = key)
      (rest : ReachesPlainly schema field.type.baseName target) : ReachesPlainly schema type target

/-- Mapping a value of the type a second time changes nothing. -/
def MapsOnce (schema : Schema) (type : String) : Prop :=
  ∀ value, schema.nativeValue type (schema.nativeValue type value) = schema.nativeValue type value

theorem nativeValue_singleton (known : schema.input? type = some input) {key : String}
    {field : InputField} (found : input.fields.find? key = some field) (value : Json) :
    schema.nativeValue type (.object [(key, value)]) =
      .object [(schema.aliases.nativeName type key,
        schema.nativeValue field.type.baseName value)] := by
  rw [nativeValue_object known, List.map_singleton, nativeMember, found]
  rfl

/-- Under a field that stands under its native name a value is mapped again. -/
theorem MapsOnce.ofPlainField (once : schema.MapsOnce type)
    (known : schema.input? type = some input) {key : String} {field : InputField}
    (found : input.fields.find? key = some field)
    (plain : schema.aliases.nativeName type key = key) : schema.MapsOnce field.type.baseName := by
  intro value
  have same := once (.object [(key, value)])
  rw [nativeValue_singleton known found, plain, nativeValue_singleton known found, plain] at same
  simpa using same

theorem MapsOnce.ofReachesPlainly {target : String} (once : schema.MapsOnce type)
    (reached : schema.ReachesPlainly type target) : schema.MapsOnce target := by
  induction reached with
  | refl => exact once
  | step known found plain _ ih => exact ih (once.ofPlainField known found plain)

/-- An alias of a name that is exposed for another field would be mapped to that field's
native name the second time. -/
theorem MapsOnce.unambiguous (once : schema.MapsOnce type) (distinct : ∀ input,
      schema.input? type = some input → ∀ first ∈ input.fields.keys, ∀ second ∈ input.fields.keys,
        schema.aliases.nativeName type first = schema.aliases.nativeName type second →
          first = second) :
    schema.Unambiguous type := by
  intro input known key present exposed
  obtain ⟨field, found⟩ := Option.isSome_iff_exists.1 ((Table.contains_iff _ _).2 present)
  obtain ⟨other, foundOther⟩ := Option.isSome_iff_exists.1 ((Table.contains_iff _ _).2 exposed)
  have same := once (.object [(key, .null)])
  rw [nativeValue_singleton known found, nativeValue_singleton known foundOther] at same
  simp only [Json.object.injEq, List.cons.injEq, Prod.mk.injEq] at same
  exact distinct input known _ exposed _ present same.1.1

theorem nativeMember_twice (known : schema.input? type = some input)
    (clear : schema.Unambiguous type) {entry : String × Json}
    (again : ∀ field, input.fields.find? entry.1 = some field →
      schema.aliases.nativeName type entry.1 = entry.1 →
      schema.nativeValue field.type.baseName (schema.nativeValue field.type.baseName entry.2) =
        schema.nativeValue field.type.baseName entry.2) :
    schema.nativeMember input type (schema.nativeMember input type entry) =
      schema.nativeMember input type entry := by
  obtain ⟨key, value⟩ := entry
  cases found : input.fields.find? key with
  | none => simp only [nativeMember, found]
  | some field =>
      by_cases plain : schema.aliases.nativeName type key = key
      · simp only [nativeMember, found, plain, again field found plain]
      · have present : key ∈ input.fields.keys := by
          rw [← Table.contains_iff, Table.contains, found, Option.isSome_some]
        have hidden : input.fields.find? (schema.aliases.nativeName type key) = none :=
          (Table.find?_eq_none _ _).2 fun exposed => plain (clear input known key present exposed)
        simp only [nativeMember, found, hidden]

theorem mapsOnce_of_unambiguous
    (clear : ∀ target, schema.ReachesPlainly type target → schema.Unambiguous target) :
    schema.MapsOnce type := by
  intro value
  induction value using Json.induction generalizing type with
  | leaf value noArray noObject =>
      rw [nativeValue_leaf noArray noObject, nativeValue_leaf noArray noObject]
  | array items ih =>
      simp only [nativeValue_array, List.map_map]
      exact congrArg Json.array (List.map_congr_left fun item member => ih item member clear)
  | object members ih =>
      cases known : schema.input? type with
      | none => rw [nativeValue_of_not_input known, nativeValue_of_not_input known]
      | some input =>
          have settled : ∀ entry ∈ Entries.collapse (members.map (schema.nativeMember input type)),
              schema.nativeMember input type entry = entry := by
            intro entry member
            obtain ⟨original, isMember, rfl⟩ := List.mem_map.1 (Entries.mem_of_mem_collapse member)
            refine nativeMember_twice known (clear type (.refl type)) fun field found plain => ?_
            exact ih original isMember fun target reached =>
              clear target (.step known found plain reached)
          rw [nativeValue_object known, nativeValue_object known, List.map_congr_left settled,
            List.map_id', Entries.collapse_of_nodup (Entries.nodup_keys_collapse _)]

end Schema

/-- Argument mapping is idempotent at an input type exactly if no type that it reaches through
fields under their native names has an alias of a name that is exposed for another field. -/
theorem mapsOnce_iff_unambiguous {document : Document} {settings : Settings} {graph : TypeGraph}
    {draft : Draft} (projected : Draft.project { document, settings } = (.ok graph, draft))
    (renamings : List (String × String × String)) (type : String) :
    ((draft.aliasAll renamings).finish graph).MapsOnce type ↔
      ∀ target, ((draft.aliasAll renamings).finish graph).ReachesPlainly type target →
        ((draft.aliasAll renamings).finish graph).Unambiguous target := by
  obtain ⟨_, tracks⟩ := Draft.Tracks.projected projected
  have renamed := tracks.renames (draft.renames_aliasAll renamings)
  constructor
  · intro once target reached
    refine (once.ofReachesPlainly reached).unambiguous ?_
    intro input known first firstIn second secondIn
    obtain ⟨created, -, account⟩ := renamed.known known
    exact account.nativeName_injective firstIn secondIn
  · exact Schema.mapsOnce_of_unambiguous

theorem mapsOnce_after_plain_alias :
    ∃ graph draft, Draft.project { document := people, settings := {} } = (.ok graph, draft) ∧
      ((draft.aliasAll [("UserWhereInput", "name", "fullName")]).finish graph).MapsOnce
        "UserWhereInput" := by
  have checked : ∃ graph draft, Draft.project { document := people, settings := {} } =
      (.ok graph, draft) ∧
        let renamed := draft.aliasAll [("UserWhereInput", "name", "fullName")]
        ∀ entry ∈ renamed.catalog.inputs.entries, ∀ key ∈ entry.2.fields.keys,
          renamed.aliases.nativeName entry.1 key ∈ entry.2.fields.keys →
            renamed.aliases.nativeName entry.1 key = key :=
    Draft.projected_of_check (by decide +kernel)
  obtain ⟨graph, draft, projected, clear⟩ := checked
  refine ⟨graph, draft, projected, (mapsOnce_iff_unambiguous projected _ _).2 fun target _ => ?_⟩
  intro input known
  exact clear (target, input) ((Table.find?_eq_some _ _ _).1 known)

/-- Two declared aliases, the second of which takes the native name of the first. -/
def chainedAliases : Settings where
  fieldAliases := .ofEntries
    [("UserWhereInput", .ofEntries [("name", "fullName"), ("age", "name")])]

/-- The first mapping writes a name that the second takes for an alias. -/
theorem chainedAliases_not_mapsOnce :
    ∃ schema, Schema.generate people chainedAliases = .ok schema ∧
      ¬ schema.MapsOnce "UserWhereInput" := by
  have differ : (Schema.generate people chainedAliases).toOption.any (fun schema =>
      let once := schema.nativeValue "UserWhereInput" (.object [("fullName", .null)])
      (once.get? "name").isSome ∧
        ((schema.nativeValue "UserWhereInput" once).get? "name").isNone) = true := by
    decide +kernel
  cases generated : Schema.generate people chainedAliases with
  | error reason => simp [generated, Except.toOption] at differ
  | ok schema =>
      refine ⟨schema, rfl, fun once => ?_⟩
      simp only [generated, Except.toOption, Option.any_some, decide_eq_true_eq,
        once (.object [("fullName", .null)])] at differ
      rw [Option.isNone_iff_eq_none.1 differ.2] at differ
      exact absurd differ.1 (by simp)

end GraphBinding
