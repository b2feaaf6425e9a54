import GraphBinding.Proofs.Session

namespace GraphBinding

/-! Taking the renaming of a field back.

A renaming touches one field of one input type.  Giving the field its former name again restores
the type and every native name, because no alias of a type is idle: the name that is given back
either stood for another name, or stood for itself without an entry.
-/

namespace InputType

variable {type : InputType} {field exposed : String}

theorem free_renameField (free : exposed = field ∨ exposed ∉ type.fields.keys) :
    field = exposed ∨ field ∉ (type.renameField field exposed).fields.keys := by
  by_cases same : field = exposed
  · exact .inl same
  · refine .inr fun still => ?_
    rw [keys_renameField free] at still
    obtain ⟨key, -, isField⟩ := List.mem_map.1 still
    split at isField
    · exact same isField.symm
    · rename_i other
      exact other isField

theorem mem_keys_renameField_self (present : field ∈ type.fields.keys)
    (free : exposed = field ∨ exposed ∉ type.fields.keys) :
    exposed ∈ (type.renameField field exposed).fields.keys := by
  rw [keys_renameField free]
  exact List.mem_map.2 ⟨field, present, if_pos rfl⟩

theorem renameField_renameField (keyed : type.Keyed)
    (free : exposed = field ∨ exposed ∉ type.fields.keys) :
    (type.renameField field exposed).renameField exposed field = type := by
  have entries : ((type.renameField field exposed).renameField exposed field).fields.entries =
      type.fields.entries := by
    rw [entries_renameField (free_renameField free), entries_renameField free, List.map_map]
    refine (List.map_congr_left ?_).trans (List.map_id _)
    rintro ⟨key, definition⟩ member
    have named : definition.name = key := keyed _ member
    have present : key ∈ type.fields.keys := List.mem_map.2 ⟨(key, definition), member, rfl⟩
    by_cases same : key = field
    · subst same named
      simp [renameEntry]
    · have avoided : key ≠ exposed := ne_of_free free present same
      simp [renameEntry, same, avoided]
  have fields : ((type.renameField field exposed).renameField exposed field).fields =
      type.fields := Table.ext entries
  exact congrArg (fun fields => { type with fields }) fields

end InputType

namespace Aliases

variable {aliases : Aliases} {inputType field exposed : String}

/-- Renaming and renaming back leaves every lookup as it was. -/
theorem nativeName?_rename_back {created current : InputType}
    (account : aliases.AccountFor inputType created current)
    (free : exposed = field ∨ exposed ∉ current.fields.keys) (other key : String) :
    ((aliases.rename inputType field exposed).rename inputType exposed field).nativeName? other
        key = aliases.nativeName? other key := by
  rw [nativeName?_rename, account.nativeName_rename_self free]
  by_cases here : other = inputType
  · subst here
    by_cases atField : key = field
    · subst atField
      cases recorded : aliases.nativeName? other key with
      | none => simp [nativeName, nativeName?_rename, recorded]
      | some native =>
          have different := (account.exposed recorded).2
          simp [nativeName, recorded, Ne.symm different]
    · by_cases atExposed : key = exposed
      · subst atExposed
        have absent := free.resolve_left atField
        cases recorded : aliases.nativeName? other key with
        | none => simp [atField]
        | some native => exact absurd (account.exposed recorded).1 absent
      · simp [atField, atExposed, nativeName?_rename]
  · simp [here, nativeName?_rename]

end Aliases

namespace Catalog

variable {catalog : Catalog} {name : String} {type : InputType}

theorem find?_redefine (other : String) :
    (catalog.redefine name type).inputs.find? other =
      if name = other then some type else catalog.inputs.find? other :=
  Table.find?_insert catalog.inputs name type other

theorem keys_redefine (found : catalog.inputs.find? name = some type) (redefined : InputType) :
    (catalog.redefine name redefined).inputs.keys = catalog.inputs.keys :=
  (Table.keys_insert catalog.inputs name redefined).trans (if_pos (mem_keys_of_find? found))

/-- A type that gets back its former definition leaves no trace. -/
theorem redefine_back (found : catalog.inputs.find? name = some type) (redefined : InputType) :
    (catalog.redefine name redefined).redefine name type = catalog := by
  have inputs : (catalog.inputs.insert name redefined).insert name type = catalog.inputs :=
    Table.ext ((Entries.insert_insert _ _ _ _).trans (Entries.insert_of_find? found))
  exact congrArg (fun inputs => { catalog with inputs }) inputs

end Catalog

/-- Between the drafts one field of one input type changes its name, in its place, and the
lookups of its two names; all else is as it was. -/
structure Draft.RenamesOnly (before after : Draft) (inputType field exposed : String) : Prop where
  document : after.document = before.document
  settings : after.settings = before.settings
  enums : after.catalog.enums = before.catalog.enums
  identifiers : after.identifiers = before.identifiers
  inputKeys : after.catalog.inputs.keys = before.catalog.inputs.keys
  otherTypes : ∀ other ≠ inputType,
    after.catalog.inputs.find? other = before.catalog.inputs.find? other ∧
      ∀ key, after.aliases.nativeName? other key = before.aliases.nativeName? other key
  renamed : ∃ type current, before.catalog.inputs.find? inputType = some type ∧
    after.catalog.inputs.find? inputType = some current ∧ current.name = type.name ∧
    current.description = type.description ∧
    current.fields.entries = type.fields.entries.map fun (key, definition) =>
      if key = field then (exposed, { definition with name := exposed }) else (key, definition)
  otherNames : ∀ key, key ≠ field → key ≠ exposed →
    after.aliases.nativeName? inputType key = before.aliases.nativeName? inputType key
  native : after.aliases.nativeName inputType exposed = before.aliases.nativeName inputType field

namespace Draft

variable {draft : Draft} {inputType field exposed : String}

theorem aliasField_succeeds_iff :
    (∃ after, draft.aliasField inputType field exposed = .ok after) ↔
      ∃ type, draft.catalog.inputs.find? inputType = some type ∧ field ∈ type.fields.keys ∧
        (exposed = field ∨ exposed ∉ type.fields.keys) := by
  simp only [aliasField_eq_ok]
  constructor
  · rintro ⟨_, type, found, present, free, -⟩
    exact ⟨type, found, present, free⟩
  · rintro ⟨type, found, present, free⟩
    exact ⟨_, type, found, present, free, rfl⟩

theorem perform_rename (draft : Draft) (inputType field exposed : String) :
    draft.perform (.rename inputType field exposed) =
      (draft.aliasField inputType field exposed).toOption.getD draft := by
  rw [perform, Drafting.outcome_aliasField]
  cases draft.aliasField inputType field exposed <;> rfl

section Accepted

variable {type created : InputType}
  (found : draft.catalog.inputs.find? inputType = some type)
  (account : draft.aliases.AccountFor inputType created type)
  (free : exposed = field ∨ exposed ∉ type.fields.keys)

include found account free

theorem renamesOnly :
    draft.RenamesOnly { draft with
      catalog := draft.catalog.redefine inputType (type.renameField field exposed)
      aliases := draft.aliases.rename inputType field exposed } inputType field exposed where
  document := rfl
  settings := rfl
  enums := rfl
  identifiers := rfl
  inputKeys := Catalog.keys_redefine found _
  otherTypes := by
    intro other different
    constructor
    · rw [Catalog.find?_redefine, if_neg (Ne.symm different)]
    · intro key
      simp [Aliases.nativeName?_rename, different]
  renamed := by
    refine ⟨type, type.renameField field exposed, found, ?_, rfl, rfl, ?_⟩
    · rw [Catalog.find?_redefine, if_pos rfl]
    · exact InputType.entries_renameField free
  otherNames := by
    intro key old new
    simp [Aliases.nativeName?_rename, old, new]
  native := account.nativeName_rename_self free

/-- The former name can be given back.  The aliases may be recorded in another way then, but no
lookup tells the difference. -/
theorem aliasField_back (present : field ∈ type.fields.keys) :
    ∃ restored, aliasField { draft with
        catalog := draft.catalog.redefine inputType (type.renameField field exposed)
        aliases := draft.aliases.rename inputType field exposed } inputType exposed field =
          .ok restored ∧
      restored.catalog = draft.catalog ∧ restored.identifiers = draft.identifiers ∧
      ∀ other key, restored.aliases.nativeName? other key =
        draft.aliases.nativeName? other key := by
  have current : (draft.catalog.redefine inputType (type.renameField field exposed)).inputs.find?
      inputType = some (type.renameField field exposed) := by
    rw [Catalog.find?_redefine, if_pos rfl]
  have restoredCatalog :
      (draft.catalog.redefine inputType (type.renameField field exposed)).redefine inputType
        ((type.renameField field exposed).renameField exposed field) = draft.catalog := by
    rw [InputType.renameField_renameField account.keyed free]
    exact Catalog.redefine_back found _
  refine ⟨_, aliasField_eq_ok.2 ⟨_, current, InputType.mem_keys_renameField_self present free,
    InputType.free_renameField free, rfl⟩, restoredCatalog, rfl, ?_⟩
  exact Aliases.nativeName?_rename_back account free

end Accepted

end Draft

/-- After any run, a field can be exposed under a name exactly if it is a field of a registered
type and the name is free or its own.  A refused name changes nothing, an accepted one only
renames the field, and giving the field its former name back restores the type and every
lookup. -/
theorem aliasField_is_local_and_reversible (document : Document) (settings : Settings)
    {events : List Event} (keyed : ∀ event ∈ events, event.Keyed)
    (inputType field exposed : String) :
    let draft := Draft.run { document, settings } events
    ((∃ after, draft.aliasField inputType field exposed = .ok after) ↔
        ∃ type, draft.catalog.inputs.find? inputType = some type ∧ field ∈ type.fields.keys ∧
          (exposed = field ∨ exposed ∉ type.fields.keys)) ∧
      (∀ reason, draft.aliasField inputType field exposed = .error reason →
        draft.perform (.rename inputType field exposed) = draft) ∧
      ∀ after, draft.aliasField inputType field exposed = .ok after →
        draft.perform (.rename inputType field exposed) = after ∧
          draft.RenamesOnly after inputType field exposed ∧
          ∃ restored, after.aliasField inputType exposed field = .ok restored ∧
            restored.catalog = draft.catalog ∧ restored.identifiers = draft.identifiers ∧
            ∀ type key, restored.aliases.nativeName? type key =
              draft.aliases.nativeName? type key := by
  intro draft
  refine ⟨Draft.aliasField_succeeds_iff, fun reason refused => ?_, fun after accepted => ?_⟩
  · rw [Draft.perform_rename, refused]
    rfl
  · obtain ⟨type, found, present, free, rfl⟩ := Draft.aliasField_eq_ok.1 accepted
    have tracks := (Draft.Tracks.new document settings).run keyed
    obtain ⟨created, -, account⟩ := tracks.known found
    refine ⟨?_, Draft.renamesOnly found account free,
      Draft.aliasField_back found account free present⟩
    rw [Draft.perform_rename, accepted]
    rfl

/-- What the swap of two names leaves. -/
def swappedPeople : Draft := Draft.run { document := people, settings := {} } swapNames

/-- After the swap `name` stands for `age`, and it does so again after a third name. -/
theorem aliasField_is_local_and_reversible_after_swap :
    ∃ after restored, swappedPeople.aliasField "UserWhereInput" "name" "years" = .ok after ∧
      swappedPeople.RenamesOnly after "UserWhereInput" "name" "years" ∧
      after.aliasField "UserWhereInput" "years" "name" = .ok restored ∧
      restored.catalog = swappedPeople.catalog ∧
      restored.aliases.nativeName? "UserWhereInput" "name" = some "age" := by
  have keyed : ∀ event ∈ swapNames, event.Keyed := by simp [swapNames, Event.Keyed]
  have present : (swappedPeople.catalog.inputs.find? "UserWhereInput").map (·.fields.keys) =
      some ["AND", "OR", "NOT", "id", "age", "name"] := by
    decide +kernel
  have native : swappedPeople.aliases.nativeName? "UserWhereInput" "name" = some "age" := by
    decide +kernel
  have settled :=
    aliasField_is_local_and_reversible people {} keyed "UserWhereInput" "name" "years"
  rw [← swappedPeople] at settled
  obtain ⟨succeeds, -, accepted⟩ := settled
  obtain ⟨type, found, names⟩ := Option.map_eq_some_iff.1 present
  have exposed : "name" ∈ type.fields.keys := by
    rw [names]
    decide
  have free : "years" ∉ type.fields.keys := by
    rw [names]
    decide
  obtain ⟨after, renamed⟩ := succeeds.2 ⟨type, found, exposed, .inr free⟩
  obtain ⟨-, only, restored, back, catalog, -, lookups⟩ := accepted after renamed
  exact ⟨after, restored, renamed, only, back, catalog, (lookups _ _).trans native⟩

end GraphBinding
