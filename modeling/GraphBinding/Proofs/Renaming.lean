import GraphBinding.Draft
import Mathlib.Data.List.Nodup
import Mathlib.Logic.Relation

namespace GraphBinding

/-! Renaming a field of an input type, and the aliases that follow it.

`AccountFor` is the invariant: taking the aliases back gives the type as it was built.
A renaming keeps it whatever was renamed before, because an alias always stands for the
native name and never for the alias that it replaces.
-/

namespace InputType

/-- Every field stands under its own name. -/
def Keyed (type : InputType) : Prop := ∀ entry ∈ type.fields.entries, entry.2.name = entry.1

/-- The fields as they are when every exposed name is replaced by a native one. -/
def fieldsUnder (nativeName : String → String) (type : InputType) : Entries InputField :=
  type.fields.entries.map fun (key, field) =>
    (nativeName key, { field with name := nativeName key })

/-- What renaming does to one entry. -/
def renameEntry (field exposed : String) : String × InputField → String × InputField
  | (key, definition) =>
      if key = field then (exposed, { definition with name := exposed }) else (key, definition)

theorem keyed_ofFields (name : String) (fields : List InputField) : (ofFields name fields).Keyed :=
  fun _ member => (Table.mem_ofValues member).2

theorem keys_fieldsUnder (nativeName : String → String) (type : InputType) :
    (type.fieldsUnder nativeName).keys = type.fields.keys.map nativeName := by
  simp only [fieldsUnder, Entries.keys, Table.keys, List.map_map]
  rfl

variable {type : InputType} {field exposed : String}

theorem ne_of_free (free : exposed = field ∨ exposed ∉ type.fields.keys) {key : String}
    (present : key ∈ type.fields.keys) (other : key ≠ field) : key ≠ exposed := by
  rintro rfl
  exact free.elim other (· present)

theorem keys_renameEntry (entries : Entries InputField) :
    Entries.keys (entries.map (renameEntry field exposed)) =
      entries.keys.map fun key => if key = field then exposed else key := by
  simp only [Entries.keys, List.map_map]
  refine List.map_congr_left fun entry _ => ?_
  obtain ⟨key, definition⟩ := entry
  by_cases same : key = field <;> simp [renameEntry, same]

/-- A free name keeps the names distinct, so that no field is lost. -/
theorem entries_renameField (free : exposed = field ∨ exposed ∉ type.fields.keys) :
    (type.renameField field exposed).fields.entries =
      type.fields.entries.map (renameEntry field exposed) := by
  refine Table.entries_ofEntries ?_
  change (Entries.keys (type.fields.entries.map (renameEntry field exposed))).Nodup
  rw [keys_renameEntry]
  refine List.Nodup.map_on ?_ type.fields.distinct
  intro first firstIn second secondIn same
  by_cases atFirst : first = field <;> by_cases atSecond : second = field
  · rw [atFirst, atSecond]
  · rw [if_pos atFirst, if_neg atSecond] at same
    exact absurd same.symm (ne_of_free free secondIn atSecond)
  · rw [if_neg atFirst, if_pos atSecond] at same
    exact absurd same (ne_of_free free firstIn atFirst)
  · rwa [if_neg atFirst, if_neg atSecond] at same

theorem keys_renameField (free : exposed = field ∨ exposed ∉ type.fields.keys) :
    (type.renameField field exposed).fields.keys =
      type.fields.keys.map fun key => if key = field then exposed else key := by
  rw [Table.keys, entries_renameField free, keys_renameEntry]
  rfl

theorem Keyed.renameField (keyed : type.Keyed)
    (free : exposed = field ∨ exposed ∉ type.fields.keys) :
    (type.renameField field exposed).Keyed := by
  intro entry member
  rw [entries_renameField free] at member
  obtain ⟨⟨key, definition⟩, old, rfl⟩ := List.mem_map.1 member
  by_cases same : key = field
  · simp [renameEntry, same]
  · simpa [renameEntry, same] using keyed _ old

end InputType

namespace Aliases

variable {aliases : Aliases} {inputType : String}

theorem nativeName?_record (exposed native other key : String) :
    (aliases.record inputType exposed native).nativeName? other key =
      if other = inputType ∧ key = exposed then some native else aliases.nativeName? other key := by
  by_cases sameType : inputType = other
  · subst sameType
    by_cases sameKey : exposed = key
    · simp [nativeName?, ofType?, record, Table.find?_insert, sameKey]
    · cases known : aliases.entries.find? inputType <;>
        simp [nativeName?, ofType?, record, Table.find?_insert, known, sameKey, Ne.symm sameKey]
  · simp [nativeName?, ofType?, record, Table.find?_insert, sameType, Ne.symm sameType]

theorem nativeName?_forget (exposed other key : String) :
    (aliases.forget inputType exposed).nativeName? other key =
      if other = inputType ∧ key = exposed then none else aliases.nativeName? other key := by
  cases known : aliases.ofType? inputType with
  | none =>
      by_cases same : other = inputType
      · simp [forget, nativeName?, known, same]
      · simp [forget, known, same]
  | some table =>
      by_cases sameType : inputType = other
      · subst sameType
        have found : aliases.entries.find? inputType = some table := known
        by_cases sameKey : exposed = key
        · simp [forget, nativeName?, ofType?, found, Table.find?_insert, Table.find?_erase, sameKey]
        · simp [forget, nativeName?, ofType?, found, Table.find?_insert, Table.find?_erase, sameKey,
            Ne.symm sameKey]
      · simp only [forget, known]
        simp [nativeName?, ofType?, Table.find?_insert, sameType, Ne.symm sameType]

/-- The lookup after a renaming: the new name stands for the native one unless it is that
name, the old one stands for nothing, and all else is as before. -/
theorem nativeName?_rename (field exposed other key : String) :
    (aliases.rename inputType field exposed).nativeName? other key =
      if other = inputType ∧ key = exposed ∧ aliases.nativeName inputType field ≠ exposed then
        some (aliases.nativeName inputType field)
      else if other = inputType ∧ key = field then none
      else aliases.nativeName? other key := by
  by_cases back : aliases.nativeName inputType field = exposed
  · simp [rename, back, nativeName?_forget]
  · by_cases here : other = inputType ∧ key = exposed
    · simp [rename, back, nativeName?_record, here]
    · have elsewhere : ¬ (other = inputType ∧ key = exposed ∧
          aliases.nativeName inputType field ≠ exposed) :=
        fun all => here ⟨all.1, all.2.1⟩
      rw [if_neg elsewhere]
      simp [rename, back, nativeName?_record, here, nativeName?_forget]

/-- The names that a renaming does not touch keep their native names. -/
theorem nativeName_rename_of_ne {field exposed key : String} (old : key ≠ field)
    (new : key ≠ exposed) :
    (aliases.rename inputType field exposed).nativeName inputType key =
      aliases.nativeName inputType key := by
  simp [nativeName, nativeName?_rename, old, new]

/-- The aliases of an input type account for every difference between the type as it was
created and as it is now: each exposed name has its native one, and no alias is idle. -/
structure AccountFor (aliases : Aliases) (inputType : String) (created current : InputType) :
    Prop where
  native : current.fieldsUnder (aliases.nativeName inputType) = created.fields.entries
  keyed : current.Keyed
  exposed : ∀ {key native : String}, aliases.nativeName? inputType key = some native →
    key ∈ current.fields.keys ∧ key ≠ native

namespace AccountFor

variable {created current : InputType} {field exposed : String}

/-- A type is accounted for as long as it has no aliases. -/
theorem fresh (keyed : created.Keyed) (none : ∀ key, aliases.nativeName? inputType key = none) :
    aliases.AccountFor inputType created created where
  native := by
    have itself : aliases.nativeName inputType = id := by
      funext key
      simp [nativeName, none]
    refine (List.map_congr_left ?_).trans (List.map_id _)
    rintro ⟨key, field⟩ member
    have named : field.name = key := keyed _ member
    simp [itself, ← named]
  keyed := keyed
  exposed recorded := by simp [none] at recorded

theorem keys_native (account : aliases.AccountFor inputType created current) :
    current.fields.keys.map (aliases.nativeName inputType) = created.fields.keys := by
  rw [← InputType.keys_fieldsUnder, account.native]
  rfl

/-- Two exposed names of a type never stand for one native name. -/
theorem nativeName_injective (account : aliases.AccountFor inputType created current)
    {first second : String} (firstIn : first ∈ current.fields.keys)
    (secondIn : second ∈ current.fields.keys)
    (same : aliases.nativeName inputType first = aliases.nativeName inputType second) :
    first = second := by
  have distinct : (current.fields.keys.map (aliases.nativeName inputType)).Nodup := by
    rw [account.keys_native]
    exact created.fields.nodup_keys
  exact List.inj_on_of_nodup_map distinct firstIn secondIn same

theorem renameOther (account : aliases.AccountFor inputType created current) {other : String}
    (different : inputType ≠ other) :
    (aliases.rename other field exposed).AccountFor inputType created current := by
  have unchanged : ∀ key, (aliases.rename other field exposed).nativeName? inputType key =
      aliases.nativeName? inputType key := by
    intro key
    simp [nativeName?_rename, different]
  have sameNames : (aliases.rename other field exposed).nativeName inputType =
      aliases.nativeName inputType := by
    funext key
    simp only [nativeName, unchanged]
  exact ⟨sameNames ▸ account.native, account.keyed,
    fun recorded => account.exposed (unchanged _ ▸ recorded)⟩

/-- The new name stands for what the old one stood for.  If that is the new name itself, no
alias is recorded, and none was idle that could answer instead. -/
theorem nativeName_rename_self (account : aliases.AccountFor inputType created current)
    (free : exposed = field ∨ exposed ∉ current.fields.keys) :
    (aliases.rename inputType field exposed).nativeName inputType exposed =
      aliases.nativeName inputType field := by
  rw [nativeName, nativeName?_rename]
  by_cases back : aliases.nativeName inputType field = exposed
  · rw [if_neg fun all => all.2.2 back, back]
    rcases free with same | absent
    · simp [same]
    · cases recorded : aliases.nativeName? inputType exposed with
      | none => by_cases same : exposed = field <;> simp [same]
      | some native => exact absurd (account.exposed recorded).1 absent
  · rw [if_pos ⟨rfl, rfl, back⟩, Option.getD_some]

theorem rename (account : aliases.AccountFor inputType created current)
    (present : field ∈ current.fields.keys)
    (free : exposed = field ∨ exposed ∉ current.fields.keys) :
    (aliases.rename inputType field exposed).AccountFor inputType created
      (current.renameField field exposed) where
  native := by
    rw [← account.native, InputType.fieldsUnder, InputType.entries_renameField free, List.map_map]
    refine List.map_congr_left ?_
    rintro ⟨key, definition⟩ member
    have inKeys : key ∈ current.fields.keys := List.mem_map.2 ⟨_, member, rfl⟩
    by_cases same : key = field
    · subst same
      simp [InputType.renameEntry, account.nativeName_rename_self free]
    · have avoided : key ≠ exposed := InputType.ne_of_free free inKeys same
      simp [InputType.renameEntry, same, nativeName_rename_of_ne same avoided]
  keyed := account.keyed.renameField free
  exposed := by
    intro key native recorded
    rw [InputType.keys_renameField free]
    rw [nativeName?_rename] at recorded
    split at recorded
    · rename_i atNew
      obtain ⟨-, rfl, moved⟩ := atNew
      cases recorded
      exact ⟨List.mem_map.2 ⟨field, present, if_pos rfl⟩, moved.symm⟩
    · split at recorded
      · cases recorded
      · rename_i notOld
        obtain ⟨inKeys, different⟩ := account.exposed recorded
        have other : key ≠ field := fun same => notOld ⟨rfl, same⟩
        exact ⟨List.mem_map.2 ⟨key, inKeys, if_neg other⟩, different⟩

end AccountFor

end Aliases

namespace Draft

/-- What an accepted alias needs and what it changes. -/
theorem aliasField_eq_ok {draft after : Draft} {inputType field exposed : String} :
    draft.aliasField inputType field exposed = .ok after ↔
      ∃ type, draft.catalog.inputs.find? inputType = some type ∧ field ∈ type.fields.keys ∧
        (exposed = field ∨ exposed ∉ type.fields.keys) ∧
        after = { draft with
          catalog := draft.catalog.redefine inputType (type.renameField field exposed)
          aliases := draft.aliases.rename inputType field exposed } := by
  unfold aliasField
  cases found : draft.catalog.inputs.find? inputType with
  | none => simp
  | some type =>
      simp only [Table.contains_iff]
      split
      · rename_i absent
        simp [absent]
      · rename_i present
        split
        · rename_i taken
          simp [taken, Ne.symm taken.1]
        · rename_i notTaken
          have free : exposed = field ∨ exposed ∉ type.fields.keys := by
            by_cases same : exposed = field
            · exact .inl same
            · exact .inr fun there => notTaken ⟨Ne.symm same, there⟩
          constructor
          · intro renamed
            exact ⟨type, rfl, not_not.1 present, free, (Except.ok.inj renamed).symm⟩
          · rintro ⟨_, same, -, -, rfl⟩
            cases same
            rfl

/-- Fields are renamed one after the other. -/
abbrev Renames : Draft → Draft → Prop :=
  Relation.ReflTransGen fun before after =>
    ∃ inputType field exposed, before.aliasField inputType field exposed = .ok after

/-- Renaming changes input types and aliases only. -/
theorem Renames.others {before after : Draft} (renames : before.Renames after) :
    after = { before with
      catalog := { before.catalog with inputs := after.catalog.inputs }
      aliases := after.aliases } := by
  induction renames with
  | refl => rfl
  | tail _ step ih =>
      obtain ⟨inputType, field, exposed, renamed⟩ := step
      obtain ⟨type, -, -, -, rfl⟩ := aliasField_eq_ok.1 renamed
      rw [ih]
      rfl

end Draft

end GraphBinding
