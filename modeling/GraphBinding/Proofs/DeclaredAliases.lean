import GraphBinding.Proofs.Generation
import GraphBinding.Proofs.NativeValues
import GraphBinding.Proofs.Precedence

namespace GraphBinding

/-! What becomes of the aliases that settings declare.

A declared alias is meant for the field under its native name, but it is given to the field that
stands under that name when its turn comes.  As long as all of them are declared for native
fields this is the same: a native name can be exposed for another field only after its own field
was renamed, and no field is declared twice.
-/

/-- The input type exposes a field under an alias, and the field stands for the native one. -/
def Schema.InForce (schema : Schema) (inputType native exposed : String) : Prop :=
  ∃ type field, schema.input? inputType = some type ∧ type.fields.find? exposed = some field ∧
    field.name = exposed ∧ (schema.aliases.nativeName? inputType exposed = some native ∨
      exposed = native ∧ schema.aliases.nativeName? inputType exposed = none)

/-- One of the input types that are made of the document has the field. -/
def Document.HasInputField (document : Document) (settings : Settings)
    (inputType field : String) : Prop :=
  ∃ created, (document.draft settings).catalog.inputs.find? inputType = some created ∧
    field ∈ created.fields.keys

theorem Aliases.nativeName_eq_iff {aliases : Aliases} {inputType key native : String} :
    aliases.nativeName inputType key = native ↔
      aliases.nativeName? inputType key = some native ∨
        key = native ∧ aliases.nativeName? inputType key = none := by
  rw [nativeName]
  cases aliases.nativeName? inputType key <;> simp

theorem Settings.nodup_renamings (settings : Settings) :
    (settings.renamings.map fun (inputType, field, _) => (inputType, field)).Nodup := by
  rw [renamings, List.map_flatMap, List.nodup_flatMap]
  constructor
  · rintro ⟨inputType, renamings⟩ -
    have fields : (renamings.entries.map fun entry => (inputType, entry.1)).Nodup := by
      have distinct := renamings.nodup_keys.map fun _ _ same =>
        (Prod.mk.inj (same : (inputType, _) = (inputType, _))).2
      rwa [Table.keys, Entries.keys, List.map_map] at distinct
    rw [List.map_map]
    exact fields
  · have types : settings.fieldAliases.entries.Pairwise fun first second =>
        first.1 ≠ second.1 := List.pairwise_map.1 settings.fieldAliases.nodup_keys
    refine types.imp fun {first second} apart => List.disjoint_left.2 ?_
    intro pair ofFirst ofSecond
    simp only [List.map_map, List.mem_map, Function.comp_apply] at ofFirst ofSecond
    obtain ⟨_, -, rfl⟩ := ofFirst
    obtain ⟨_, -, same⟩ := ofSecond
    exact apart (congrArg Prod.fst same).symm

theorem InputType.mem_keys_renameField {type : InputType} {field exposed key : String}
    (present : field ∈ type.fields.keys) (free : exposed = field ∨ exposed ∉ type.fields.keys) :
    key ∈ (type.renameField field exposed).fields.keys ↔
      key = exposed ∨ key ∈ type.fields.keys ∧ key ≠ field := by
  rw [keys_renameField free, List.mem_map]
  constructor
  · rintro ⟨old, isOld, rfl⟩
    by_cases same : old = field
    · rw [if_pos same]
      exact .inl rfl
    · rw [if_neg same]
      exact .inr ⟨isOld, same⟩
  · rintro (rfl | ⟨isOld, apart⟩)
    · exact ⟨field, present, if_pos rfl⟩
    · exact ⟨key, isOld, if_neg apart⟩

namespace Draft

/-- A type of the draft exposes a field that stands for a native one. -/
def Exposes (draft : Draft) (inputType native exposed : String) : Prop :=
  ∃ type, draft.catalog.inputs.find? inputType = some type ∧ exposed ∈ type.fields.keys ∧
    draft.aliases.nativeName inputType exposed = native

/-- The aliases given so far are those that the draft shows: all of them are in force, and no
field has another name without one. -/
structure Shows (created? : String → Option InputType) (draft : Draft)
    (given : List (String × String × String)) : Prop where
  tracks : draft.Tracks created?
  inForce : ∀ {inputType native exposed}, (inputType, native, exposed) ∈ given →
    draft.Exposes inputType native exposed
  declared : ∀ {inputType native exposed}, draft.Exposes inputType native exposed →
    exposed ≠ native → (inputType, native, exposed) ∈ given

variable {created? : String → Option InputType} {before after : Draft}
  {given : List (String × String × String)} {inputType field exposed : String}

theorem renameAll_cons_ok {renamings : List (String × String × String)}
    (renamed : before.renameAll ((inputType, field, exposed) :: renamings) = .ok after) :
    ∃ middle, before.aliasField inputType field exposed = .ok middle ∧
      middle.renameAll renamings = .ok after := by
  simp only [Draft.renameAll, List.foldlM_cons] at renamed
  cases step : before.aliasField inputType field exposed with
  | error reason =>
      rw [step] at renamed
      cases renamed
  | ok middle =>
      rw [step] at renamed
      exact ⟨middle, rfl, renamed⟩

theorem renames_of_renameAll {renamings : List (String × String × String)}
    (renamed : before.renameAll renamings = .ok after) : before.Renames after := by
  induction renamings generalizing before with
  | nil =>
      cases renamed
      exact .refl
  | cons first rest ih =>
      obtain ⟨inputType, field, exposed⟩ := first
      obtain ⟨middle, step, renamed⟩ := renameAll_cons_ok renamed
      exact .head ⟨inputType, field, exposed, step⟩ (ih renamed)

/-- A field that is declared once has no alias before its turn. -/
theorem pending_of_nodup {renamings : List (String × String × String)}
    (distinct : ((given ++ (inputType, field, exposed) :: renamings).map
      fun (inputType, field, _) => (inputType, field)).Nodup) (other : String) :
    (inputType, field, other) ∉ given := by
  intro earlier
  rw [List.map_append, List.map_cons, List.nodup_append] at distinct
  exact distinct.2.2 _ (List.mem_map.2 ⟨_, earlier, rfl⟩) _ (List.mem_cons_self ..) rfl

theorem Tracks.current (tracks : before.Tracks created?) {created : InputType}
    (known : created? inputType = some created) :
    ∃ type, before.catalog.inputs.find? inputType = some type ∧
      before.aliases.AccountFor inputType created type := by
  cases found : before.catalog.inputs.find? inputType with
  | none =>
      rw [(tracks.unknown found).1] at known
      cases known
  | some type =>
      obtain ⟨_, same, account⟩ := tracks.known found
      rw [known] at same
      cases same
      exact ⟨type, rfl, account⟩

theorem Tracks.exists_exposes (tracks : before.Tracks created?) {created : InputType}
    (known : created? inputType = some created) (native : field ∈ created.fields.keys) :
    ∃ key, before.Exposes inputType field key := by
  obtain ⟨type, found, account⟩ := tracks.current known
  rw [← account.keys_native] at native
  obtain ⟨key, present, stands⟩ := List.mem_map.1 native
  exact ⟨key, type, found, present, stands⟩

theorem Shows.exposes_native (shows : before.Shows created? given) {created : InputType}
    (known : created? inputType = some created) (native : field ∈ created.fields.keys)
    (pending : ∀ exposed, (inputType, field, exposed) ∉ given) :
    before.Exposes inputType field field := by
  obtain ⟨key, exposes⟩ := shows.tracks.exists_exposes known native
  by_cases itself : key = field
  · rwa [itself] at exposes
  · exact absurd (shows.declared exposes itself) (pending key)

/-- What is exposed after a renaming: the renamed field under its new name, and all others as
they were. -/
theorem exposes_aliasField (tracks : before.Tracks created?)
    (renamed : before.aliasField inputType field exposed = .ok after)
    (otherType native key : String) :
    after.Exposes otherType native key ↔
      if otherType = inputType ∧ key = exposed then
        before.aliases.nativeName inputType field = native
      else before.Exposes otherType native key ∧ ¬ (otherType = inputType ∧ key = field) := by
  obtain ⟨type, found, present, free, rfl⟩ := aliasField_eq_ok.1 renamed
  obtain ⟨created, known, account⟩ := tracks.known found
  by_cases here : inputType = otherType
  · subst here
    have current : (before.catalog.redefine inputType
        (type.renameField field exposed)).inputs.find? inputType =
          some (type.renameField field exposed) := by
      rw [Catalog.redefine, Table.find?_insert, if_pos rfl]
    simp only [Exposes, current, found, Option.some.injEq, exists_eq_left', true_and,
      InputType.mem_keys_renameField present free]
    split
    · rename_i new
      subst new
      rw [account.nativeName_rename_self free]
      exact and_iff_right (.inl rfl)
    · rename_i new
      constructor
      · rintro ⟨rfl | ⟨old, apart⟩, stands⟩
        · exact absurd rfl new
        · rw [Aliases.nativeName_rename_of_ne apart new] at stands
          exact ⟨⟨old, stands⟩, apart⟩
      · rintro ⟨⟨old, stands⟩, apart⟩
        rw [Aliases.nativeName_rename_of_ne apart new]
        exact ⟨.inr ⟨old, apart⟩, stands⟩
  · have current : (before.catalog.redefine inputType
        (type.renameField field exposed)).inputs.find? otherType =
          before.catalog.inputs.find? otherType := by
      rw [Catalog.redefine, Table.find?_insert, if_neg here]
    have sameName : (before.aliases.rename inputType field exposed).nativeName otherType key =
        before.aliases.nativeName otherType key := by
      simp only [Aliases.nativeName, Aliases.nativeName?_rename, Ne.symm here, false_and, if_false]
    rw [if_neg fun both => here both.1.symm,
      and_iff_left fun both : otherType = inputType ∧ key = field => here both.1.symm]
    simp only [Exposes, current, sameName]

theorem Shows.aliasField (shows : before.Shows created? given) {created : InputType}
    (known : created? inputType = some created) (native : field ∈ created.fields.keys)
    (pending : ∀ exposed, (inputType, field, exposed) ∉ given)
    (renamed : before.aliasField inputType field exposed = .ok after) :
    after.Shows created? (given ++ [(inputType, field, exposed)]) := by
  obtain ⟨type, found, -, free, -⟩ := aliasField_eq_ok.1 renamed
  obtain ⟨_, -, -, itself⟩ := shows.exposes_native known native pending
  have shown := exposes_aliasField shows.tracks renamed
  refine ⟨shows.tracks.aliasField renamed, fun {otherType name key} member => ?_,
    fun {otherType name key} exposes apart => ?_⟩
  · rw [shown]
    rcases List.mem_append.1 member with earlier | last
    · obtain ⟨current, foundCurrent, present, stands⟩ := shows.inForce earlier
      split
      · rename_i new
        obtain ⟨rfl, rfl⟩ := new
        rw [found] at foundCurrent
        cases foundCurrent
        rcases free with same | absent
        · rwa [same] at stands
        · exact absurd present absent
      · refine ⟨⟨current, foundCurrent, present, stands⟩, ?_⟩
        rintro ⟨rfl, rfl⟩
        rw [itself] at stands
        subst stands
        exact pending _ earlier
    · obtain ⟨rfl, rfl, rfl⟩ : otherType = inputType ∧ name = field ∧ key = exposed := by
        simpa using last
      rw [if_pos ⟨rfl, rfl⟩, itself]
  · rw [shown] at exposes
    apply List.mem_append.2
    split at exposes
    · rename_i new
      obtain ⟨rfl, rfl⟩ := new
      rw [itself] at exposes
      subst exposes
      exact .inr (List.mem_singleton_self _)
    · exact .inl (shows.declared exposes.1 apart)

/-- The draft shows all aliases that are given for native fields, one for each. -/
theorem Shows.renameAll (shows : before.Shows created? given)
    {renamings : List (String × String × String)}
    (distinct : ((given ++ renamings).map fun (inputType, field, _) => (inputType, field)).Nodup)
    (native : ∀ {inputType field exposed}, (inputType, field, exposed) ∈ renamings →
      ∃ created, created? inputType = some created ∧ field ∈ created.fields.keys)
    (renamed : before.renameAll renamings = .ok after) :
    after.Shows created? (given ++ renamings) := by
  induction renamings generalizing before given with
  | nil =>
      cases renamed
      rwa [List.append_nil]
  | cons first rest ih =>
      obtain ⟨inputType, field, exposed⟩ := first
      obtain ⟨middle, step, renamed⟩ := renameAll_cons_ok renamed
      obtain ⟨created, known, ofType⟩ := native (List.mem_cons_self ..)
      have next := shows.aliasField known ofType (pending_of_nodup distinct) step
      rw [List.append_cons] at distinct ⊢
      exact ih next distinct (fun member => native (List.mem_cons_of_mem _ member)) renamed

theorem Shows.start {document : Document} {settings : Settings} {draft : Draft}
    (builds : ({ document, settings } : Draft).Builds draft) :
    draft.Shows draft.catalog.inputs.find? [] where
  tracks := .itself builds
  inForce member := by cases member
  declared := by
    rintro inputType native exposed ⟨type, -, -, stands⟩ apart
    rw [builds.aliases] at stands
    exact absurd stands apart

theorem exposes_iff_inForce (tracks : after.Tracks created?) (graph : TypeGraph)
    {native : String} :
    (after.finish graph).InForce inputType native exposed ↔
      after.Exposes inputType native exposed := by
  constructor
  · rintro ⟨type, definition, found, shown, -, stands⟩
    have present : exposed ∈ type.fields.keys :=
      (Table.contains_iff _ _).1 (Option.isSome_iff_exists.2 ⟨_, shown⟩)
    exact ⟨type, found, present, Aliases.nativeName_eq_iff.2 stands⟩
  · rintro ⟨type, found, present, stands⟩
    obtain ⟨created, -, account⟩ := tracks.known found
    obtain ⟨definition, shown⟩ := Option.isSome_iff_exists.1 ((Table.contains_iff _ _).2 present)
    have named : definition.name = exposed := account.keyed _ ((Table.find?_eq_some _ _ _).1 shown)
    exact ⟨type, definition, found, shown, named, Aliases.nativeName_eq_iff.1 stands⟩

end Draft

theorem Projection.renameAll_of_forM {renamings : List (String × String × String)}
    {before after : Draft}
    (done : Drafting.outcome (renamings.forM fun (inputType, field, exposed) =>
      Drafting.aliasField inputType field exposed) before = (.ok ⟨⟩, after)) :
    before.renameAll renamings = .ok after := by
  induction renamings generalizing before with
  | nil =>
      cases done
      rfl
  | cons first rest ih =>
      obtain ⟨inputType, field, exposed⟩ := first
      rw [Drafting.outcome_forM_cons] at done
      obtain ⟨⟨⟩, middle, step, done⟩ := Drafting.outcome_bind_ok done
      rw [Drafting.outcome_aliasField] at step
      cases renamed : before.aliasField inputType field exposed with
      | error reason =>
          simp only [renamed] at step
          cases step
      | ok current =>
          simp only [renamed] at step
          cases step
          simp only [Draft.renameAll, List.foldlM_cons, renamed]
          exact ih done

namespace Schema

variable {document : Document} {settings : Settings} {schema : Schema}

/-- A generated schema is what the declared aliases make of the types of the document. -/
theorem drafted_of_generate (generated : generate document settings = .ok schema) :
    ∃ graph draft, Drafting.outcome Projection.assemble { document, settings } =
        (.ok graph, document.draft settings) ∧
      (document.draft settings).renameAll settings.renamings = .ok draft ∧
      schema = draft.finish graph := by
  obtain ⟨graph, draft, projected, rfl⟩ := projected_of_generate generated
  obtain ⟨middle, assembled, declared⟩ := Draft.assembled_of_projected projected
  obtain rfl := Projection.draft_of_assembled assembled
  rw [Projection.declareAliases_eq_forM] at declared
  exact ⟨graph, draft, assembled, Projection.renameAll_of_forM declared, rfl⟩

/-- All declared aliases of a generated schema are in force if and only if every one of them is
declared for a field that its input type has of itself. -/
theorem declared_in_force_iff (generated : generate document settings = .ok schema) :
    (∀ inputType field exposed, (inputType, field, exposed) ∈ settings.renamings →
      schema.InForce inputType field exposed) ↔
    ∀ inputType field exposed, (inputType, field, exposed) ∈ settings.renamings →
      document.HasInputField settings inputType field := by
  obtain ⟨graph, draft, assembled, renamed, rfl⟩ := drafted_of_generate generated
  have builds := Projection.builds_assemble { document, settings }
  rw [assembled] at builds
  have start := Draft.Shows.start builds
  have tracks := start.tracks.renames (Draft.renames_of_renameAll renamed)
  constructor
  · intro inForce inputType field exposed member
    obtain ⟨type, found, present, stands⟩ :=
      (Draft.exposes_iff_inForce tracks graph).1 (inForce inputType field exposed member)
    obtain ⟨created, known, account⟩ := tracks.known found
    refine ⟨created, known, ?_⟩
    rw [← account.keys_native, ← stands]
    exact List.mem_map_of_mem present
  · intro native inputType field exposed member
    have shows := start.renameAll settings.nodup_renamings
      (fun {inputType field exposed} => native inputType field exposed) renamed
    exact (Draft.exposes_iff_inForce tracks graph).2 (shows.inForce member)

end Schema

theorem declared_in_force_chained :
    ∃ schema, Schema.generate people chainedAliases = .ok schema ∧
      schema.InForce "UserWhereInput" "name" "fullName" ∧
      schema.InForce "UserWhereInput" "age" "name" := by
  have generates : ∃ schema, Schema.generate people chainedAliases = .ok schema :=
    refusal?_eq_none.1 (by decide +kernel)
  obtain ⟨schema, generated⟩ := generates
  have declared : chainedAliases.renamings =
      [("UserWhereInput", "name", "fullName"), ("UserWhereInput", "age", "name")] := by
    decide
  have made : ((people.draft chainedAliases).catalog.inputs.find? "UserWhereInput").map
      (·.fields.keys) = some ["AND", "OR", "NOT", "id", "name", "age"] := by
    decide +kernel
  obtain ⟨created, found, fields⟩ := Option.map_eq_some_iff.1 made
  have native : ∀ inputType field exposed,
      (inputType, field, exposed) ∈ chainedAliases.renamings →
        people.HasInputField chainedAliases inputType field := by
    intro inputType field exposed member
    rw [declared] at member
    rcases List.mem_pair.1 member with same | same
    · cases same
      exact ⟨created, found, by simp [fields]⟩
    · cases same
      exact ⟨created, found, by simp [fields]⟩
  have inForce := (Schema.declared_in_force_iff generated).2 native
  exact ⟨schema, generated, inForce _ _ _ (by simp [declared]), inForce _ _ _ (by simp [declared])⟩

/-- An alias, and an alias that is declared for it as if it were a field. -/
def relayedAliases : Settings where
  fieldAliases := .ofEntries
    [("UserWhereInput", .ofEntries [("name", "fullName"), ("fullName", "displayName")])]

/-- The second takes the place of the first, and stands for a field that has another name. -/
theorem relayedAliases_not_in_force :
    ∃ schema, Schema.generate people relayedAliases = .ok schema ∧
      ("UserWhereInput", "name", "fullName") ∈ relayedAliases.renamings ∧
      ¬ schema.InForce "UserWhereInput" "name" "fullName" ∧
      ("UserWhereInput", "fullName", "displayName") ∈ relayedAliases.renamings ∧
      ¬ schema.InForce "UserWhereInput" "fullName" "displayName" := by
  have checked : ∃ schema, Schema.generate people relayedAliases = .ok schema ∧
      (schema.input? "UserWhereInput").bind (·.fields.find? "fullName") = none ∧
      schema.aliases.nativeName? "UserWhereInput" "displayName" = some "name" :=
    Schema.generated_of_check (by decide +kernel)
  obtain ⟨schema, generated, hidden, stands⟩ := checked
  refine ⟨schema, generated, by decide, ?_, by decide, ?_⟩
  · rintro ⟨type, field, found, shown, -⟩
    rw [found, Option.bind_some, shown] at hidden
    cases hidden
  · rintro ⟨-, -, -, -, -, recorded | ⟨-, none⟩⟩
    · rw [stands] at recorded
      exact absurd recorded (by decide)
    · rw [stands] at none
      cases none

end GraphBinding
