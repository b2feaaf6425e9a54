import GraphBinding.Proofs.AliasedSchema
import GraphBinding.Proofs.NativeValues

namespace GraphBinding

/-! Values under exposed names, and what becomes of them on the way to the data client. -/

/-- The name of the field that stands in `current` where `created` has the field `key`. -/
def InputType.exposedName (created current : InputType) (key : String) : String :=
  current.fields.keys[created.fields.keys.idxOf key]?.getD key

namespace Schema

mutual

/-- The value as a request for `aliased` gives it: every key at an input type of `plain` is
replaced by the name that the field in its place has in `aliased`. -/
def exposedValue (plain aliased : Schema) (type : String) : Json → Json
  | .array items => .array (exposedItems plain aliased type items)
  | .object members =>
      match plain.input? type, aliased.input? type with
      | some created, some current =>
          .object (exposedMembers plain aliased created current members)
      | _, _ => .object members
  | value => value

def exposedItems (plain aliased : Schema) (type : String) : List Json → List Json
  | [] => []
  | item :: rest => exposedValue plain aliased type item :: exposedItems plain aliased type rest

def exposedMembers (plain aliased : Schema) (created current : InputType) :
    List (String × Json) → List (String × Json)
  | [] => []
  | (key, value) :: rest =>
      (match created.fields.find? key with
        | some field =>
            (created.exposedName current key, exposedValue plain aliased field.type.baseName value)
        | none => (key, value)) :: exposedMembers plain aliased created current rest

end

mutual

/-- Wherever an object stands at an input type, it has only keys that the type declares. -/
def Fits (schema : Schema) (type : String) : Json → Prop
  | .array items => FitsItems schema type items
  | .object members =>
      match schema.input? type with
      | some input => FitsMembers schema input members
      | none => True
  | _ => True

def FitsItems (schema : Schema) (type : String) : List Json → Prop
  | [] => True
  | item :: rest => Fits schema type item ∧ FitsItems schema type rest

def FitsMembers (schema : Schema) (input : InputType) : List (String × Json) → Prop
  | [] => True
  | (key, value) :: rest =>
      (match input.fields.find? key with
        | some field => Fits schema field.type.baseName value
        | none => False) ∧ FitsMembers schema input rest

end

/-- One member of an object that stands at an input type. -/
def exposedMember (plain aliased : Schema) (created current : InputType) (entry : String × Json) :
    String × Json :=
  match created.fields.find? entry.1 with
  | some field =>
      (created.exposedName current entry.1,
        exposedValue plain aliased field.type.baseName entry.2)
  | none => entry

variable {schema plain aliased : Schema} {type : String} {input created current : InputType}

theorem exposedItems_eq_map (items : List Json) :
    exposedItems plain aliased type items = items.map (exposedValue plain aliased type) := by
  induction items with
  | nil => rw [exposedItems, List.map_nil]
  | cons item rest ih => rw [exposedItems, ih, List.map_cons]

theorem exposedMembers_eq_map (members : List (String × Json)) :
    exposedMembers plain aliased created current members =
      members.map (exposedMember plain aliased created current) := by
  induction members with
  | nil => rw [exposedMembers, List.map_nil]
  | cons entry rest ih =>
      obtain ⟨key, value⟩ := entry
      rw [exposedMembers, ih, List.map_cons]
      cases found : created.fields.find? key <;> simp only [exposedMember, found]

theorem exposedValue_leaf {value : Json} (noArray : ∀ items, value ≠ .array items)
    (noObject : ∀ members, value ≠ .object members) :
    exposedValue plain aliased type value = value := by
  cases value with
  | array items => exact absurd rfl (noArray items)
  | object members => exact absurd rfl (noObject members)
  | _ => rw [exposedValue] <;> simp

mutual

def decideFits (schema : Schema) (type : String) :
    (value : Json) → Decidable (schema.Fits type value)
  | .array items => decideFitsItems schema type items
  | .object members =>
      match known : schema.input? type with
      | some input =>
          have := decideFitsMembers schema input members
          decidable_of_iff (schema.FitsMembers input members) (by simp only [Fits, known])
      | none => isTrue (by simp only [Fits, known])
  | .null | .boolean _ | .integer _ | .real _ | .string _ => isTrue trivial

def decideFitsItems (schema : Schema) (type : String) :
    (items : List Json) → Decidable (schema.FitsItems type items)
  | [] => isTrue trivial
  | item :: rest =>
      @instDecidableAnd _ _ (decideFits schema type item) (decideFitsItems schema type rest)

def decideFitsMembers (schema : Schema) (input : InputType) :
    (members : List (String × Json)) → Decidable (schema.FitsMembers input members)
  | [] => isTrue trivial
  | (key, value) :: rest =>
      match known : input.fields.find? key with
      | some field =>
          have := decideFits schema field.type.baseName value
          have := decideFitsMembers schema input rest
          decidable_of_iff
            (schema.Fits field.type.baseName value ∧ schema.FitsMembers input rest)
            (by simp only [FitsMembers, known])
      | none => isFalse (by simp [FitsMembers, known])

end

instance (value : Json) : Decidable (schema.Fits type value) := decideFits schema type value

theorem fitsItems_iff (items : List Json) :
    schema.FitsItems type items ↔ ∀ item ∈ items, schema.Fits type item := by
  induction items with
  | nil => simp [FitsItems]
  | cons item rest ih => simp [FitsItems, ih]

theorem fitsMembers_iff (members : List (String × Json)) :
    schema.FitsMembers input members ↔ ∀ entry ∈ members, ∃ field,
      input.fields.find? entry.1 = some field ∧ schema.Fits field.type.baseName entry.2 := by
  induction members with
  | nil => simp [FitsMembers]
  | cons entry rest ih =>
      obtain ⟨key, value⟩ := entry
      cases found : input.fields.find? key <;> simp [FitsMembers, ih, found]

end Schema

namespace Json

theorem distinctNamesItems_iff (items : List Json) :
    DistinctNamesItems items ↔ ∀ item ∈ items, item.DistinctNames := by
  induction items with
  | nil => simp [DistinctNamesItems]
  | cons item rest ih => simp [DistinctNamesItems, ih]

theorem distinctNamesMembers_iff (members : List (String × Json)) :
    DistinctNamesMembers members ↔ ∀ entry ∈ members, entry.2.DistinctNames := by
  induction members with
  | nil => simp [DistinctNamesMembers]
  | cons entry rest ih => simp [DistinctNamesMembers, ih]

mutual

def decideDistinctNames : (value : Json) → Decidable value.DistinctNames
  | .array items => decideDistinctNamesItems items
  | .object members => @instDecidableAnd _ _ inferInstance (decideDistinctNamesMembers members)
  | .null | .boolean _ | .integer _ | .real _ | .string _ => isTrue trivial

def decideDistinctNamesItems : (items : List Json) → Decidable (DistinctNamesItems items)
  | [] => isTrue trivial
  | item :: rest => @instDecidableAnd _ _ (decideDistinctNames item) (decideDistinctNamesItems rest)

def decideDistinctNamesMembers :
    (members : List (String × Json)) → Decidable (DistinctNamesMembers members)
  | [] => isTrue trivial
  | (_, value) :: rest =>
      @instDecidableAnd _ _ (decideDistinctNames value) (decideDistinctNamesMembers rest)

end

instance (value : Json) : Decidable value.DistinctNames := decideDistinctNames value

end Json

/-- The field in the place of a native one, which renaming keeps, and that its name leads back. -/
theorem Aliases.AccountFor.exposedName {aliases : Aliases} {type : String}
    {created current : InputType} (account : aliases.AccountFor type created current) {key : String}
    {field : InputField} (found : created.fields.find? key = some field) :
    ∃ shown, current.fields.find? (created.exposedName current key) = some shown ∧
      shown.type = field.type ∧
      aliases.nativeName type (created.exposedName current key) = key := by
  have present : key ∈ created.fields.keys :=
    (Table.contains_iff _ _).1 (by rw [Table.contains, found, Option.isSome_some])
  have place : created.fields.keys[created.fields.keys.idxOf key]? = some key :=
    List.getElem?_idxOf present
  unfold InputType.exposedName
  generalize created.fields.keys.idxOf key = index at place ⊢
  rw [Table.keys, Entries.keys, ← account.native, InputType.fieldsUnder, List.map_map,
    List.getElem?_map, Option.map_eq_some_iff] at place
  obtain ⟨⟨shownKey, shown⟩, atPlace, named⟩ := place
  have native : aliases.nativeName type shownKey = key := named
  have exposed : current.fields.keys[index]? = some shownKey := by
    rw [Table.keys, Entries.keys, List.getElem?_map]
    exact Option.map_eq_some_iff.2 ⟨_, atPlace, rfl⟩
  have isShown : (shownKey, shown) ∈ current.fields.entries := List.mem_of_getElem? atPlace
  have isCreated : (key, { shown with name := key }) ∈ created.fields.entries := by
    rw [← account.native, ← native]
    exact List.mem_map.2 ⟨_, isShown, rfl⟩
  have same := (Table.find?_eq_some _ _ _).2 isCreated
  rw [found] at same
  cases same
  rw [exposed, Option.getD_some]
  exact ⟨shown, (Table.find?_eq_some _ _ _).2 isShown, rfl, native⟩

namespace Schema

variable {plain aliased schema : Schema} {type : String} {value : Json}

/-- Mapping undoes exposing: names, values and their order are those of the value itself. -/
theorem Aliased.nativeValue_exposedValue (shown : plain.Aliased aliased)
    (distinct : value.DistinctNames) (fits : plain.Fits type value) :
    aliased.nativeValue type (exposedValue plain aliased type value) = value := by
  induction value using Json.induction generalizing type with
  | leaf value noArray noObject =>
      rw [exposedValue_leaf noArray noObject, nativeValue_leaf noArray noObject]
  | array items ih =>
      rw [exposedValue, exposedItems_eq_map, nativeValue_array, List.map_map]
      rw [Json.DistinctNames, Json.distinctNamesItems_iff] at distinct
      rw [Fits, fitsItems_iff] at fits
      refine congrArg Json.array ((List.map_congr_left fun item member => ?_).trans (List.map_id _))
      exact ih item member (distinct item member) (fits item member)
  | object members ih =>
      cases plainInput : plain.input? type with
      | none =>
          rw [nativeValue_of_not_input (shown.unknown plainInput)]
          simp only [exposedValue, plainInput]
      | some created =>
          obtain ⟨current, aliasedInput, account⟩ := shown.known plainInput
          rw [Json.DistinctNames, Json.distinctNamesMembers_iff] at distinct
          simp only [Fits, plainInput, fitsMembers_iff] at fits
          have restored : ∀ entry ∈ members, aliased.nativeMember current type
              (exposedMember plain aliased created current entry) = entry := by
            rintro ⟨key, value⟩ member
            obtain ⟨field, found, fitting⟩ := fits _ member
            obtain ⟨field', foundShown, sameType, native⟩ := account.exposedName found
            simp only [exposedMember, found, nativeMember, foundShown, sameType, native]
            rw [ih _ member (distinct.2 _ member) fitting]
          simp only [exposedValue, plainInput, aliasedInput]
          have same : members.map (aliased.nativeMember current type ∘
              exposedMember plain aliased created current) = members :=
            (List.map_congr_left restored).trans (List.map_id _)
          rw [exposedMembers_eq_map, nativeValue_object aliasedInput, List.map_map, same,
            Entries.collapse_of_nodup distinct.1]

theorem nativeValue_of_unaliased (none : ∀ type key, schema.aliases.nativeName? type key = none)
    (distinct : value.DistinctNames) : schema.nativeValue type value = value := by
  induction value using Json.induction generalizing type with
  | leaf value noArray noObject => exact nativeValue_leaf noArray noObject
  | array items ih =>
      rw [Json.DistinctNames, Json.distinctNamesItems_iff] at distinct
      rw [nativeValue_array]
      refine congrArg Json.array ((List.map_congr_left fun item member => ?_).trans (List.map_id _))
      exact ih item member (distinct item member)
  | object members ih =>
      cases known : schema.input? type with
      | none => exact nativeValue_of_not_input known _
      | some input =>
          rw [Json.DistinctNames, Json.distinctNamesMembers_iff] at distinct
          have kept : ∀ entry ∈ members, schema.nativeMember input type entry = entry := by
            rintro ⟨key, value⟩ member
            cases found : input.fields.find? key with
            | none => simp only [nativeMember, found]
            | some field =>
                simp only [nativeMember, found, Aliases.nativeName, none, Option.getD_none]
                rw [ih _ member (distinct.2 _ member)]
          rw [nativeValue_object known, (List.map_congr_left kept).trans (List.map_id _),
            Entries.collapse_of_nodup distinct.1]

end Schema

end GraphBinding
