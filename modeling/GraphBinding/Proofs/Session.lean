import GraphBinding.Proofs.Drafting

namespace GraphBinding

/-! Sessions: everything that may happen to a draft, in any order and with any outcome.

Types only ever enter the catalog, and the aliases follow every renaming of a field.  So
after any run the aliases account for the difference between a type as it was created and
as it is now.
-/

/-- What may happen to a session. -/
inductive Event where
  | request (request : Catalog.Request)
  | project
  | rename (inputType field exposed : String)

def Event.Keyed : Event → Prop
  | .request asked => asked.Keyed
  | _ => True

namespace Draft

open Drafting

/-- The draft after an event, which may have failed. -/
def perform (draft : Draft) : Event → Draft
  | .request request => { draft with catalog := request.fulfill draft.catalog }
  | .project => draft.project.2
  | .rename inputType field exposed =>
      (outcome (Drafting.aliasField inputType field exposed) draft).2

def run (draft : Draft) (events : List Event) : Draft := events.foldl perform draft

/-- The draft after a sequence of aliases, some of which may be refused. -/
def aliasAll (draft : Draft) (renamings : List (String × String × String)) : Draft :=
  draft.run (renamings.map fun (inputType, field, exposed) => .rename inputType field exposed)

theorem renames_aliasAll (draft : Draft) (renamings : List (String × String × String)) :
    draft.Renames (draft.aliasAll renamings) := by
  induction renamings generalizing draft with
  | nil => exact .refl
  | cons first rest ih =>
      obtain ⟨inputType, field, exposed⟩ := first
      exact (renames_aliasField inputType field exposed draft).trans (ih _)

/-- The catalog of an event as soon as its types are made, before it renames any field. -/
def built (draft : Draft) : Event → Catalog
  | .request request => request.fulfill draft.catalog
  | .project => (outcome Projection.assemble draft).2.catalog
  | .rename .. => draft.catalog

/-- The first definition that an input type gets in a run. -/
def created? (draft : Draft) (name : String) : List Event → Option InputType
  | [] => none
  | event :: rest =>
      ((draft.built event).inputs.find? name).or ((draft.perform event).created? name rest)

/-- The aliases account for every type in the catalog, given the definitions with which the
types were created, and there are no aliases of other types. -/
structure Tracks (created? : String → Option InputType) (draft : Draft) : Prop where
  known : ∀ {name type}, draft.catalog.inputs.find? name = some type →
    ∃ created, created? name = some created ∧ draft.aliases.AccountFor name created type
  unknown : ∀ {name}, draft.catalog.inputs.find? name = none →
    created? name = none ∧ ∀ key, draft.aliases.nativeName? name key = none

namespace Tracks

variable {created? : String → Option InputType} {before after : Draft}

theorem new (document : Document) (settings : Settings) :
    Tracks (fun _ => none) { document, settings } where
  known found := by cases found
  unknown _ := ⟨rfl, fun _ => rfl⟩

/-- Types that are already there keep their definitions, and the new ones have no aliases. -/
theorem builds (tracks : before.Tracks created?) (builds : before.Builds after) :
    after.Tracks fun name => (created? name).or (after.catalog.inputs.find? name) where
  known := by
    intro name type found
    rw [builds.aliases]
    cases old : before.catalog.inputs.find? name with
    | some former =>
        have same := builds.catalog.find? old
        rw [found] at same
        cases same
        obtain ⟨created, known, account⟩ := tracks.known old
        exact ⟨created, by simp only [known, Option.some_or], account⟩
    | none =>
        obtain ⟨uncreated, unaliased⟩ := tracks.unknown old
        have keyed := (builds.catalog.keyed found).resolve_left (by simp [old])
        exact ⟨type, by simp only [uncreated, found, Option.none_or], .fresh keyed unaliased⟩
  unknown := by
    intro name absent
    have old : before.catalog.inputs.find? name = none := by
      cases former : before.catalog.inputs.find? name with
      | none => rfl
      | some type => rw [builds.catalog.find? former] at absent; cases absent
    obtain ⟨uncreated, unaliased⟩ := tracks.unknown old
    exact ⟨by simp only [uncreated, absent, Option.none_or], by rwa [builds.aliases]⟩

theorem aliasField (tracks : before.Tracks created?) {inputType field exposed : String}
    (renamed : before.aliasField inputType field exposed = .ok after) :
    after.Tracks created? := by
  obtain ⟨type, found, present, free, rfl⟩ := aliasField_eq_ok.1 renamed
  constructor
  · intro name current registered
    change (before.catalog.inputs.insert inputType _).find? name = some current at registered
    rw [Table.find?_insert] at registered
    by_cases here : inputType = name
    · subst here
      rw [if_pos rfl] at registered
      cases registered
      obtain ⟨created, known, account⟩ := tracks.known found
      exact ⟨created, known, account.rename present free⟩
    · rw [if_neg here] at registered
      obtain ⟨created, known, account⟩ := tracks.known registered
      exact ⟨created, known, account.renameOther (Ne.symm here)⟩
  · intro name absent
    change (before.catalog.inputs.insert inputType _).find? name = none at absent
    rw [Table.find?_insert] at absent
    by_cases here : inputType = name
    · rw [if_pos here] at absent
      cases absent
    · rw [if_neg here] at absent
      obtain ⟨uncreated, unaliased⟩ := tracks.unknown absent
      refine ⟨uncreated, fun key => ?_⟩
      rw [Aliases.nativeName?_rename, if_neg fun all => here all.1.symm,
        if_neg fun both => here both.1.symm]
      exact unaliased key

theorem renames (tracks : before.Tracks created?) (renames : before.Renames after) :
    after.Tracks created? := by
  induction renames with
  | refl => exact tracks
  | tail _ step ih =>
      obtain ⟨inputType, field, exposed, renamed⟩ := step
      exact ih.aliasField renamed

/-- A draft that is tracked knows the definitions of all types in its catalog. -/
theorem created?_or (tracks : before.Tracks created?) :
    (fun name => (created? name).or (before.catalog.inputs.find? name)) = created? := by
  funext name
  cases found : before.catalog.inputs.find? name with
  | none => exact Option.or_none
  | some type =>
      obtain ⟨created, known, -⟩ := tracks.known found
      simp only [known, Option.some_or]

theorem perform (tracks : before.Tracks created?) (event : Event) (keyed : event.Keyed) :
    (before.perform event).Tracks fun name =>
      (created? name).or ((before.built event).inputs.find? name) := by
  cases event with
  | request asked =>
      have grown : before.Builds { before with catalog := asked.fulfill before.catalog } :=
        ⟨rfl, rfl, asked.fulfill_grows keyed before.catalog, rfl⟩
      exact tracks.builds grown
  | project =>
      have assembled := tracks.builds (Projection.builds_assemble before)
      change (outcome Projection.project before).2.Tracks _
      rw [Projection.outcome_project]
      simp only [built]
      rcases made : outcome Projection.assemble before with ⟨answer, middle⟩
      rw [made] at assembled
      cases answer with
      | error reason => exact assembled
      | ok graph =>
          have declared := assembled.renames
            (Projection.renames_declareAliases before.settings.fieldAliases middle)
          dsimp only
          split
          · rename_i ended
            rwa [ended] at declared
          · rename_i ended
            rwa [ended] at declared
  | rename inputType field exposed =>
      rw [built, tracks.created?_or]
      exact tracks.renames (renames_aliasField inputType field exposed before)

theorem run {events : List Event} (keyed : ∀ event ∈ events, event.Keyed)
    (tracks : before.Tracks created?) :
    (before.run events).Tracks fun name => (created? name).or (before.created? name events) := by
  induction events generalizing before created? with
  | nil =>
      simp only [Draft.created?, Option.or_none]
      exact tracks
  | cons event rest ih =>
      have first := tracks.perform event (keyed event (by simp))
      simp only [Draft.created?, ← Option.or_assoc]
      exact ih (fun other member => keyed other (by simp [member])) first

theorem itself {document : Document} {settings : Settings} {draft : Draft}
    (builds : ({ document, settings } : Draft).Builds draft) :
    draft.Tracks draft.catalog.inputs.find? := by
  have tracks := (new document settings).builds builds
  simpa only [Option.none_or] using tracks

theorem projected {document : Document} {settings : Settings} {draft : Draft}
    {answer : Except GenerationError TypeGraph}
    (projected : Draft.project { document, settings } = (answer, draft)) :
    ∃ created?, draft.Tracks created? := by
  have tracks := (new document settings).perform .project trivial
  rw [Draft.perform, projected] at tracks
  exact ⟨_, tracks⟩

end Tracks

end Draft

/-- What the alias table says about an input type agrees with what became of its fields. -/
structure Aliases.InStep (aliases : Aliases) (name : String) (created current : InputType) :
    Prop where
  size : current.fields.size = created.fields.size
  /-- The exposed names, position by position, stand for the names at creation. -/
  natives : current.fields.keys.map (aliases.nativeName name) = created.fields.keys
  names : ∀ entry ∈ current.fields.entries, entry.2.name = entry.1
  contents : current.fields.values.map (fun field => (field.type, field.description)) =
    created.fields.values.map fun field => (field.type, field.description)
  exposed : ∀ key native, aliases.nativeName? name key = some native →
    key ∈ current.fields.keys ∧ key ≠ native

theorem Aliases.AccountFor.inStep {aliases : Aliases} {name : String} {created current : InputType}
    (account : aliases.AccountFor name created current) : aliases.InStep name created current where
  size := by
    have lengths := congrArg List.length account.native
    rwa [InputType.fieldsUnder, List.length_map] at lengths
  natives := account.keys_native
  names := account.keyed
  contents := by
    simp only [Table.values, Entries.values, ← account.native, InputType.fieldsUnder, List.map_map]
    rfl
  exposed _ _ := account.exposed

/-- After any run of a new session every registered input type has the fields with which it
was created, in their places and with their contents, and its aliases are exactly those
exposed names that are not native. -/
theorem run_keeps_aliases_in_step (document : Document) (settings : Settings)
    {events : List Event} (keyed : ∀ event ∈ events, event.Keyed) {name : String} {type : InputType}
    (registered : (Draft.run { document, settings } events).catalog.inputs.find? name = some type) :
    ∃ created, Draft.created? { document, settings } name events = some created ∧
      (Draft.run { document, settings } events).aliases.InStep name created type := by
  have tracks := (Draft.Tracks.new document settings).run keyed
  obtain ⟨created, known, account⟩ := tracks.known registered
  exact ⟨created, known, account.inStep⟩

/-- One model of three fields. -/
def people : Document where
  models :=
    [{ name := "User"
       fields :=
         [{ name := "id", kind := .scalar, type := "Int", isId := true },
           { name := "name", kind := .scalar, type := "String" },
           { name := "age", kind := .scalar, type := "Int" }] }]

/-- Two fields take each other's names, one of them is asked for a name that is taken, and
everything is made a second time. -/
def swapNames : List Event :=
  [.project, .rename "UserWhereInput" "name" "kept", .rename "UserWhereInput" "age" "name",
    .rename "UserWhereInput" "id" "name", .rename "UserWhereInput" "kept" "age", .project]

theorem run_keeps_aliases_in_step_after_swap :
    ∃ type created,
      (Draft.run { document := people, settings := {} } swapNames).catalog.inputs.find?
        "UserWhereInput" = some type ∧
      type.fields.keys = ["AND", "OR", "NOT", "id", "age", "name"] ∧
      created.fields.keys = ["AND", "OR", "NOT", "id", "name", "age"] ∧
      (Draft.run { document := people, settings := {} } swapNames).aliases.InStep "UserWhereInput"
        created type := by
  have keyed : ∀ event ∈ swapNames, event.Keyed := by simp [swapNames, Event.Keyed]
  have present : ((Draft.run { document := people, settings := {} } swapNames).catalog.inputs.find?
      "UserWhereInput").map (·.fields.keys) = some ["AND", "OR", "NOT", "id", "age", "name"] := by
    decide +kernel
  obtain ⟨type, found, names⟩ := Option.map_eq_some_iff.1 present
  obtain ⟨created, known, inStep⟩ := run_keeps_aliases_in_step people {} keyed found
  have native : ((Draft.created? { document := people, settings := {} } "UserWhereInput"
      swapNames).map (·.fields.keys)) = some ["AND", "OR", "NOT", "id", "name", "age"] := by
    decide +kernel
  rw [known] at native
  exact ⟨type, created, found, names, Option.some.inj native, inStep⟩

end GraphBinding
