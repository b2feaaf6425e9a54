import GraphBinding.Proofs.Session
import GraphBinding.Schema

namespace GraphBinding

/-! Schemas that differ in the names of input fields only. -/

/-- `aliased` is `plain` with some fields under other names. -/
structure Schema.Aliased (plain aliased : Schema) : Prop where
  settings : aliased.settings = plain.settings
  graph : aliased.graph = plain.graph
  identifiers : aliased.identifiers = plain.identifiers
  enums : aliased.catalog.enums = plain.catalog.enums
  known : ∀ {type created}, plain.input? type = some created →
    ∃ current, aliased.input? type = some current ∧
      aliased.aliases.AccountFor type created current
  unknown : ∀ {type}, plain.input? type = none → aliased.input? type = none

theorem Draft.Renames.aliased {document : Document} {settings : Settings} {before after : Draft}
    (renames : before.Renames after) (builds : ({ document, settings } : Draft).Builds before)
    (graph : TypeGraph) : (before.finish graph).Aliased (after.finish graph) := by
  have tracks := (Tracks.itself builds).renames renames
  refine ⟨?_, rfl, ?_, ?_, fun {type created} found => ?_, fun {type} absent => ?_⟩
  · change after.settings = before.settings
    rw [renames.others]
  · change after.identifiers = before.identifiers
    rw [renames.others]
  · change after.catalog.enums = before.catalog.enums
    rw [renames.others]
  · cases current : after.catalog.inputs.find? type with
    | none =>
        have uncreated := (tracks.unknown current).1
        rw [show before.catalog.inputs.find? type = some created from found] at uncreated
        cases uncreated
    | some shown =>
        obtain ⟨original, known, account⟩ := tracks.known current
        rw [show before.catalog.inputs.find? type = some created from found] at known
        cases known
        exact ⟨shown, current, account⟩
  · cases current : after.catalog.inputs.find? type with
    | none => exact current
    | some shown =>
        obtain ⟨original, known, -⟩ := tracks.known current
        rw [show before.catalog.inputs.find? type = none from absent] at known
        cases known

/-- One of the fields has the named type under its wrappers. -/
def InputType.Refers (type : InputType) (name : String) : Prop :=
  ∃ entry ∈ type.fields.entries, entry.2.type.baseName = name

theorem Aliases.AccountFor.refers {aliases : Aliases} {type name : String}
    {created current : InputType} (account : aliases.AccountFor type created current) :
    current.Refers name ↔ created.Refers name := by
  unfold InputType.Refers
  rw [← account.native, InputType.fieldsUnder]
  constructor
  · rintro ⟨entry, member, refers⟩
    exact ⟨_, List.mem_map.2 ⟨entry, member, rfl⟩, refers⟩
  · rintro ⟨_, member, refers⟩
    obtain ⟨entry, isEntry, rfl⟩ := List.mem_map.1 member
    exact ⟨entry, isEntry, refers⟩

namespace Schema.Aliased

variable {plain aliased : Schema}

theorem field? (shown : plain.Aliased aliased) (type field : String) :
    aliased.field? type field = plain.field? type field := by
  simp only [Schema.field?, Schema.object?, shown.graph]

theorem created (shown : plain.Aliased aliased) {type : String} {current : InputType}
    (found : aliased.input? type = some current) :
    ∃ created, plain.input? type = some created ∧
      aliased.aliases.AccountFor type created current := by
  cases former : plain.input? type with
  | none =>
      rw [shown.unknown former] at found
      cases found
  | some created =>
      obtain ⟨same, foundSame, account⟩ := shown.known former
      rw [found] at foundSame
      cases foundSame
      exact ⟨created, rfl, account⟩

theorem inputKeys (shown : plain.Aliased aliased) {type : String} :
    type ∈ aliased.catalog.inputs.keys ↔ type ∈ plain.catalog.inputs.keys := by
  constructor
  · intro present
    obtain ⟨current, found⟩ := Catalog.find?_of_mem_keys present
    obtain ⟨created, former, -⟩ := shown.created found
    exact Catalog.mem_keys_of_find? former
  · intro present
    obtain ⟨created, found⟩ := Catalog.find?_of_mem_keys present
    obtain ⟨current, shownAs, -⟩ := shown.known found
    exact Catalog.mem_keys_of_find? shownAs

end Schema.Aliased

end GraphBinding
