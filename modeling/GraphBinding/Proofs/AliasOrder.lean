import GraphBinding.Proofs.DeclaredAliases
import Mathlib.Data.List.Perm.Basic

namespace GraphBinding

/-! Whether the order matters in which settings declare aliases.

Aliases are given one after the other, each to the types as those before have left them.  As long
as all are declared for native fields, and none for a name that another field has natively, all
that can be refused is a second alias of one name, which is refused in every order.  Any other
alias is refused where it comes first.
-/

/-- The same settings, with the input types and the fields of each declared in some order. -/
structure Settings.Reorders (settings other : Settings) : Prop where
  others : { other with fieldAliases := settings.fieldAliases } = settings
  aliases : ∃ types, settings.fieldAliases.entries.Perm types ∧
    List.Forall₂ (fun declared shuffled => declared.1 = shuffled.1 ∧
      declared.2.entries.Perm shuffled.2.entries) types other.fieldAliases.entries

/-- Both generations are refused, or both expose the same names in the same order, and these stand
for the same native names. -/
inductive Alike : Except GenerationError Schema → Except GenerationError Schema → Prop
  | refused (first second : GenerationError) : Alike (.error first) (.error second)
  | generated {first second : Schema}
      (names : ∀ inputType, (first.input? inputType).map (·.fields.keys) =
        (second.input? inputType).map (·.fields.keys))
      (natives : ∀ inputType key, first.aliases.nativeName? inputType key =
        second.aliases.nativeName? inputType key) :
      Alike (.ok first) (.ok second)

/-- Every alias is declared for a field that its input type has of itself, and is the name of no
other such field. -/
def Document.DeclaresApart (document : Document) (settings : Settings) : Prop :=
  ∀ inputType field exposed, (inputType, field, exposed) ∈ settings.renamings →
    document.HasInputField settings inputType field ∧
      (exposed = field ∨ ¬ document.HasInputField settings inputType exposed)

theorem perm_flatMap {α β : Type} {same : α → α → Prop} {expand : α → List β}
    (each : ∀ first second, same first second → (expand first).Perm (expand second))
    {items others : List α} (pairs : List.Forall₂ same items others) :
    (items.flatMap expand).Perm (others.flatMap expand) := by
  induction pairs with
  | nil => exact .refl _
  | cons pair _ ih =>
      rw [List.flatMap_cons, List.flatMap_cons]
      exact (each _ _ pair).append ih

theorem eq_of_map_eq {α β : Type} {image : α → β} {items others : List α}
    (injective : ∀ first ∈ items, ∀ second ∈ others, image first = image second → first = second)
    (same : items.map image = others.map image) : items = others := by
  induction items generalizing others with
  | nil => exact (List.map_eq_nil_iff.1 same.symm).symm
  | cons first rest ih =>
      cases others with
      | nil => cases same
      | cons second later =>
          rw [List.map_cons, List.map_cons, List.cons.injEq] at same
          rw [injective first (List.mem_cons_self ..) second (List.mem_cons_self ..) same.1,
            ih (fun first isFirst second isSecond => injective first
              (List.mem_cons_of_mem _ isFirst) second (List.mem_cons_of_mem _ isSecond)) same.2]

namespace Settings

variable {settings other : Settings}

theorem Reorders.renamings (reorders : settings.Reorders other) :
    settings.renamings.Perm other.renamings := by
  obtain ⟨types, shuffled, pairs⟩ := reorders.aliases
  refine (shuffled.flatMap_right _).trans (perm_flatMap ?_ pairs)
  rintro ⟨inputType, fields⟩ ⟨_, others⟩ ⟨rfl, perm⟩
  exact perm.map _

theorem Reorders.idProjection (reorders : settings.Reorders other) :
    other.idProjection = settings.idProjection := by
  have same := congrArg Settings.idProjection reorders.others
  exact same

theorem exists_reorders_cons {inputType field exposed : String}
    (declared : (inputType, field, exposed) ∈ settings.renamings) :
    ∃ other rest, settings.Reorders other ∧
      other.renamings = (inputType, field, exposed) :: rest := by
  obtain ⟨⟨_, fields⟩, isType, ofType⟩ := List.mem_flatMap.1 declared
  obtain ⟨_, isField, same⟩ := List.mem_map.1 ofType
  cases same
  have permFields := List.perm_cons_erase isField
  have permTypes := List.perm_cons_erase isType
  have distinctFields := (permFields.map Prod.fst).nodup fields.distinct
  have distinctTypes := (permTypes.map Prod.fst).nodup settings.fieldAliases.distinct
  refine ⟨{ settings with fieldAliases := ⟨(inputType, ⟨_, distinctFields⟩) :: _, distinctTypes⟩ },
    _, ⟨rfl, _, permTypes, .cons ⟨rfl, permFields⟩ ?_⟩, rfl⟩
  exact List.forall₂_same.2 fun _ _ => ⟨rfl, .refl _⟩

end Settings

namespace Draft

variable {created? : String → Option InputType} {draft before after : Draft}
  {given others renamings : List (String × String × String)} {inputType field exposed : String}

theorem Tracks.nativeName?_eq_some (tracks : draft.Tracks created?) {native key : String} :
    draft.aliases.nativeName? inputType key = some native ↔
      draft.Exposes inputType native key ∧ key ≠ native := by
  constructor
  · intro recorded
    cases found : draft.catalog.inputs.find? inputType with
    | none =>
        rw [(tracks.unknown found).2] at recorded
        cases recorded
    | some type =>
        obtain ⟨created, -, account⟩ := tracks.known found
        obtain ⟨present, apart⟩ := account.exposed recorded
        exact ⟨⟨type, found, present, Aliases.nativeName_eq_iff.2 (.inl recorded)⟩, apart⟩
  · rintro ⟨⟨type, -, -, stands⟩, apart⟩
    exact (Aliases.nativeName_eq_iff.1 stands).resolve_right fun itself => apart itself.1

theorem Tracks.none_current (tracks : draft.Tracks created?) (unknown : created? inputType = none) :
    draft.catalog.inputs.find? inputType = none := by
  cases found : draft.catalog.inputs.find? inputType with
  | none => rfl
  | some type =>
      obtain ⟨created, known, -⟩ := tracks.known found
      rw [unknown] at known
      cases known

theorem Tracks.exposes_injective (tracks : draft.Tracks created?) {first second : String}
    (left : draft.Exposes inputType field first) (right : draft.Exposes inputType field second) :
    first = second := by
  obtain ⟨type, found, isFirst, standsFirst⟩ := left
  obtain ⟨_, same, isSecond, standsSecond⟩ := right
  rw [found] at same
  cases same
  obtain ⟨created, -, account⟩ := tracks.known found
  exact account.nativeName_injective isFirst isSecond (standsFirst.trans standsSecond.symm)

theorem Tracks.native_of_exposes (tracks : draft.Tracks created?)
    (exposes : draft.Exposes inputType field exposed) :
    ∃ created, created? inputType = some created ∧ field ∈ created.fields.keys := by
  obtain ⟨type, found, present, stands⟩ := exposes
  obtain ⟨created, known, account⟩ := tracks.known found
  refine ⟨created, known, ?_⟩
  rw [← account.keys_native, ← stands]
  exact List.mem_map_of_mem present

theorem Shows.exposes_congr (first : before.Shows created? given)
    (second : after.Shows created? others) (same : ∀ entry, entry ∈ given ↔ entry ∈ others)
    (exposes : before.Exposes inputType field exposed) :
    after.Exposes inputType field exposed := by
  by_cases itself : exposed = field
  · subst itself
    obtain ⟨created, known, native⟩ := first.tracks.native_of_exposes exposes
    obtain ⟨key, shown⟩ := second.tracks.exists_exposes known native
    by_cases moved : key = exposed
    · rwa [moved] at shown
    · have earlier := first.inForce ((same _).2 (second.declared shown moved))
      exact absurd (first.tracks.exposes_injective earlier exposes) moved
  · exact second.inForce ((same _).1 (first.declared exposes itself))

/-- The names of a type in their order are told by the native names behind them. -/
theorem Shows.keys_congr (first : before.Shows created? given)
    (second : after.Shows created? others)
    (same : ∀ entry, entry ∈ given ↔ entry ∈ others) :
    (before.catalog.inputs.find? inputType).map (·.fields.keys) =
      (after.catalog.inputs.find? inputType).map (·.fields.keys) := by
  cases known : created? inputType with
  | none => rw [first.tracks.none_current known, second.tracks.none_current known]
  | some created =>
      obtain ⟨type, found, account⟩ := first.tracks.current known
      obtain ⟨other, foundOther, accountOther⟩ := second.tracks.current known
      have natives : ∀ key ∈ type.fields.keys, key ∈ other.fields.keys ∧
          after.aliases.nativeName inputType key = before.aliases.nativeName inputType key := by
        intro key present
        obtain ⟨_, again, isKey, stands⟩ :=
          first.exposes_congr second same ⟨type, found, present, rfl⟩
        rw [foundOther] at again
        cases again
        exact ⟨isKey, stands⟩
      rw [found, foundOther]
      refine congrArg some (eq_of_map_eq (fun key present _ isOther =>
        accountOther.nativeName_injective (natives key present).1 isOther) ?_)
      rw [accountOther.keys_native, ← account.keys_native]
      exact List.map_congr_left fun key present => (natives key present).2

theorem Shows.nativeName?_congr (first : before.Shows created? given)
    (second : after.Shows created? others)
    (same : ∀ entry, entry ∈ given ↔ entry ∈ others) (key : String) :
    before.aliases.nativeName? inputType key = after.aliases.nativeName? inputType key := by
  apply Option.ext
  intro native
  have exposes : before.Exposes inputType native key ↔ after.Exposes inputType native key :=
    ⟨first.exposes_congr second same, second.exposes_congr first fun entry => (same entry).symm⟩
  exact first.tracks.nativeName?_eq_some.trans
    ((and_congr_left fun _ => exposes).trans second.tracks.nativeName?_eq_some.symm)

def targets (renamings : List (String × String × String)) : List (String × String) :=
  renamings.map fun (inputType, _, exposed) => (inputType, exposed)

/-- A field can be given any name but those that were given to others. -/
theorem Shows.aliasField_ok_iff (shows : before.Shows created? given) {created : InputType}
    (known : created? inputType = some created) (native : field ∈ created.fields.keys)
    (apart : exposed = field ∨ exposed ∉ created.fields.keys)
    (pending : ∀ other, (inputType, field, other) ∉ given) :
    (∃ after, before.aliasField inputType field exposed = .ok after) ↔
      (inputType, exposed) ∉ targets given := by
  obtain ⟨type, found, present, stands⟩ := shows.exposes_native known native pending
  constructor
  · rintro ⟨after, renamed⟩ taken
    obtain ⟨⟨_, other, _⟩, earlier, same⟩ := List.mem_map.1 taken
    cases same
    obtain ⟨_, again, -, free, -⟩ := aliasField_eq_ok.1 renamed
    rw [found] at again
    cases again
    obtain ⟨_, again, shown, standsOther⟩ := shows.inForce earlier
    rw [found] at again
    cases again
    have itself := free.resolve_right fun absent => absent shown
    subst itself
    obtain rfl : other = exposed := standsOther.symm.trans stands
    exact pending _ earlier
  · intro fresh
    have free : exposed = field ∨ exposed ∉ type.fields.keys := by
      refine apart.imp_right fun absent shown => ?_
      have exposes :
          before.Exposes inputType (before.aliases.nativeName inputType exposed) exposed :=
        ⟨type, found, shown, rfl⟩
      obtain ⟨_, again, isNative⟩ := shows.tracks.native_of_exposes exposes
      rw [known] at again
      cases again
      have moved : exposed ≠ before.aliases.nativeName inputType exposed :=
        fun itself => absent (itself ▸ isNative)
      exact fresh (List.mem_map_of_mem (shows.declared exposes moved))
    exact ⟨_, aliasField_eq_ok.2 ⟨type, found, present, free, rfl⟩⟩

theorem exists_renameAll_cons :
    (∃ after, before.renameAll ((inputType, field, exposed) :: renamings) = .ok after) ↔
      ∃ middle, before.aliasField inputType field exposed = .ok middle ∧
        ∃ after, middle.renameAll renamings = .ok after := by
  constructor
  · rintro ⟨after, renamed⟩
    obtain ⟨middle, step, later⟩ := renameAll_cons_ok renamed
    exact ⟨middle, step, after, later⟩
  · rintro ⟨middle, step, after, later⟩
    refine ⟨after, ?_⟩
    rw [renameAll, List.foldlM_cons]
    simp only [step]
    exact later

/-- All names are accepted if and only if no two of them are the same, with those given so far. -/
theorem Shows.renameAll_ok_iff (shows : before.Shows created? given)
    (distinct : ((given ++ renamings).map fun (inputType, field, _) => (inputType, field)).Nodup)
    (separate : ∀ inputType field exposed, (inputType, field, exposed) ∈ renamings →
      ∃ created, created? inputType = some created ∧ field ∈ created.fields.keys ∧
        (exposed = field ∨ exposed ∉ created.fields.keys))
    (earlier : (targets given).Nodup) :
    (∃ after, before.renameAll renamings = .ok after) ↔ (targets (given ++ renamings)).Nodup := by
  induction renamings generalizing before given with
  | nil =>
      rw [List.append_nil]
      exact iff_of_true ⟨before, rfl⟩ earlier
  | cons first rest ih =>
      obtain ⟨inputType, field, exposed⟩ := first
      obtain ⟨created, known, native, apart⟩ := separate _ _ _ (List.mem_cons_self ..)
      have pending := pending_of_nodup distinct
      have accepted := shows.aliasField_ok_iff known native apart pending
      rw [List.append_cons] at distinct
      have next : ∀ middle, before.aliasField inputType field exposed = .ok middle →
          (targets (given ++ [(inputType, field, exposed)])).Nodup →
          ((∃ after, middle.renameAll rest = .ok after) ↔
            (targets (given ++ (inputType, field, exposed) :: rest)).Nodup) := by
        intro middle step fresh
        rw [List.append_cons]
        exact ih (shows.aliasField known native pending step) distinct
          (fun _ _ _ member => separate _ _ _ (List.mem_cons_of_mem _ member)) fresh
      have nodup_next : (targets (given ++ [(inputType, field, exposed)])).Nodup ↔
          (inputType, exposed) ∉ targets given := by
        rw [targets, List.map_append, List.map_singleton, ← List.concat_eq_append,
          List.nodup_concat]
        exact and_iff_left earlier
      rw [exists_renameAll_cons]
      constructor
      · rintro ⟨middle, step, later⟩
        exact (next middle step (nodup_next.2 (accepted.1 ⟨middle, step⟩))).1 later
      · intro all
        have fresh : (targets (given ++ [(inputType, field, exposed)])).Nodup := by
          rw [List.append_cons, targets, List.map_append] at all
          exact (List.nodup_append.1 all).1
        obtain ⟨middle, step⟩ := accepted.2 (nodup_next.1 fresh)
        exact ⟨middle, step, (next middle step fresh).2 all⟩

end Draft

section Generation

variable {document : Document} {settings first second : Settings}

theorem Draft.Shows.draft (document : Document) (settings : Settings) :
    (document.draft settings).Shows (document.draft settings).catalog.inputs.find? [] := by
  have grows : Catalog.Grows {} (document.draft settings).catalog :=
    Catalog.foldl_fulfill_grows (fun _ member => Document.keyed_requests member) {}
  exact .start ⟨rfl, rfl, grows, rfl⟩

theorem Document.catalog_draft_congr (same : first.idProjection = second.idProjection) :
    (document.draft first).catalog = (document.draft second).catalog := by
  rw [draft, draft, same]

theorem Document.hasInputField_congr (same : first.idProjection = second.idProjection)
    {inputType field : String} :
    document.HasInputField first inputType field ↔
      document.HasInputField second inputType field := by
  rw [HasInputField, HasInputField, catalog_draft_congr same]

theorem Document.DeclaresApart.congr (apart : document.DeclaresApart first)
    (same : first.idProjection = second.idProjection)
    (perm : first.renamings.Perm second.renamings) : document.DeclaresApart second := by
  intro inputType field exposed declared
  rw [← hasInputField_congr same, ← hasInputField_congr same]
  exact apart inputType field exposed (perm.mem_iff.2 declared)

theorem Document.DeclaresApart.separate (apart : document.DeclaresApart settings)
    {inputType field exposed : String}
    (declared : (inputType, field, exposed) ∈ settings.renamings) :
    ∃ created, (document.draft settings).catalog.inputs.find? inputType = some created ∧
      field ∈ created.fields.keys ∧ (exposed = field ∨ exposed ∉ created.fields.keys) := by
  obtain ⟨⟨created, found, native⟩, free⟩ := apart inputType field exposed declared
  exact ⟨created, found, native, free.imp_right fun absent present =>
    absent ⟨created, found, present⟩⟩

theorem Document.DeclaresApart.renameAll_ok_iff (apart : document.DeclaresApart settings) :
    (∃ aliased, (document.draft settings).renameAll settings.renamings = .ok aliased) ↔
      (Draft.targets settings.renamings).Nodup :=
  (Draft.Shows.draft document settings).renameAll_ok_iff settings.nodup_renamings
    (fun _ _ _ declared => apart.separate declared) List.nodup_nil

theorem Schema.exists_generate_iff :
    (∃ schema, generate document settings = .ok schema) ↔ document.Accepted settings := by
  rw [← refusal?_eq_none, Projection.refusal?_generate, Document.violation?_eq_none]

theorem Schema.shows_of_generate (apart : document.DeclaresApart settings) {schema : Schema}
    (generated : generate document settings = .ok schema) :
    ∃ (graph : TypeGraph) (draft : Draft), schema = draft.finish graph ∧
      draft.Shows (document.draft settings).catalog.inputs.find? settings.renamings := by
  obtain ⟨graph, draft, -, renamed, rfl⟩ := drafted_of_generate generated
  have native : ∀ {inputType field exposed}, (inputType, field, exposed) ∈ settings.renamings →
      ∃ created, (document.draft settings).catalog.inputs.find? inputType = some created ∧
        field ∈ created.fields.keys := by
    intro inputType field exposed declared
    obtain ⟨created, found, isNative, -⟩ := apart.separate declared
    exact ⟨created, found, isNative⟩
  exact ⟨graph, draft, rfl,
    (Draft.Shows.draft document settings).renameAll settings.nodup_renamings native renamed⟩

theorem Document.DeclaresApart.alike (apart : document.DeclaresApart first)
    (same : first.idProjection = second.idProjection)
    (perm : first.renamings.Perm second.renamings) :
    Alike (Schema.generate document first) (Schema.generate document second) := by
  have apartSecond := apart.congr same perm
  have accepted : document.Accepted first ↔ document.Accepted second := by
    have nodup : (Draft.targets first.renamings).Nodup ↔ (Draft.targets second.renamings).Nodup :=
      (perm.map _).nodup_iff
    have aliases := apart.renameAll_ok_iff.trans (nodup.trans apartSecond.renameAll_ok_iff.symm)
    exact ⟨fun accepted => { accepted with aliases := aliases.1 accepted.aliases },
      fun accepted => { accepted with aliases := aliases.2 accepted.aliases }⟩
  rw [← Schema.exists_generate_iff, ← Schema.exists_generate_iff] at accepted
  cases generated : Schema.generate document first with
  | error reason =>
      cases others : Schema.generate document second with
      | error other => exact .refused reason other
      | ok schema =>
          obtain ⟨_, refused⟩ := accepted.2 ⟨schema, others⟩
          rw [generated] at refused
          cases refused
  | ok schema =>
      obtain ⟨other, others⟩ := accepted.1 ⟨schema, generated⟩
      rw [others]
      obtain ⟨_, _, rfl, shows⟩ := Schema.shows_of_generate apart generated
      obtain ⟨_, _, rfl, showsOther⟩ := Schema.shows_of_generate apartSecond others
      rw [← catalog_draft_congr same] at showsOther
      have members := fun entry => perm.mem_iff (a := entry)
      exact .generated (fun _ => shows.keys_congr showsOther members)
        (fun _ => shows.nativeName?_congr showsOther members)

/-- An alias that comes first is accepted for a native field only, under a name that no other
native field has. -/
theorem Schema.apart_of_generate_first {inputType field exposed : String}
    {rest : List (String × String × String)}
    (first : settings.renamings = (inputType, field, exposed) :: rest) {schema : Schema}
    (generated : generate document settings = .ok schema) :
    document.HasInputField settings inputType field ∧
      (exposed = field ∨ ¬ document.HasInputField settings inputType exposed) := by
  obtain ⟨graph, draft, -, renamed, -⟩ := drafted_of_generate generated
  rw [first] at renamed
  obtain ⟨middle, step, -⟩ := Draft.renameAll_cons_ok renamed
  obtain ⟨created, found, native, free, -⟩ := Draft.aliasField_eq_ok.1 step
  refine ⟨⟨created, found, native⟩, free.imp_right ?_⟩
  rintro absent ⟨_, same, present⟩
  rw [found] at same
  cases same
  exact absent present

/-- The order of the declared aliases is of no account if and only if all are declared for native
fields under names that no other native field has, or none of the orders is accepted. -/
theorem alias_order_irrelevant_iff (document : Document) (settings : Settings) :
    (∀ first second, settings.Reorders first → settings.Reorders second →
      Alike (Schema.generate document first) (Schema.generate document second)) ↔
    document.DeclaresApart settings ∨
      ∀ other, settings.Reorders other →
        ∃ reason, Schema.generate document other = .error reason := by
  constructor
  · intro alike
    by_cases accepts : ∃ other schema, settings.Reorders other ∧
        Schema.generate document other = .ok schema
    · obtain ⟨accepted, schema, reorders, succeeds⟩ := accepts
      refine .inl fun inputType field exposed declared => ?_
      obtain ⟨other, rest, reordersOther, isFirst⟩ := Settings.exists_reorders_cons declared
      have same := alike other accepted reordersOther reorders
      rw [succeeds] at same
      cases generated : Schema.generate document other with
      | error reason =>
          rw [generated] at same
          cases same
      | ok made =>
          have apart := Schema.apart_of_generate_first isFirst generated
          rwa [Document.hasInputField_congr reordersOther.idProjection,
            Document.hasInputField_congr reordersOther.idProjection] at apart
    · refine .inr fun other reorders => ?_
      cases generated : Schema.generate document other with
      | error reason => exact ⟨reason, rfl⟩
      | ok schema => exact absurd ⟨other, schema, reorders, generated⟩ accepts
  · rintro (apart | refused) first second reordersFirst reordersSecond
    · have apartFirst := apart.congr reordersFirst.idProjection.symm reordersFirst.renamings
      exact apartFirst.alike (reordersFirst.idProjection.trans reordersSecond.idProjection.symm)
        (reordersFirst.renamings.symm.trans reordersSecond.renamings)
    · obtain ⟨reason, refusedFirst⟩ := refused first reordersFirst
      obtain ⟨other, refusedSecond⟩ := refused second reordersSecond
      rw [refusedFirst, refusedSecond]
      exact .refused reason other

end Generation

/-- Two aliases for native fields, under names that no field has natively. -/
def separateAliases : Settings where
  fieldAliases := .ofEntries
    [("UserWhereInput", .ofEntries [("name", "fullName"), ("age", "years")])]

theorem alias_order_irrelevant_separate :
    people.DeclaresApart separateAliases ∧
      ∀ first second, separateAliases.Reorders first → separateAliases.Reorders second →
        Alike (Schema.generate people first) (Schema.generate people second) := by
  have declared : separateAliases.renamings =
      [("UserWhereInput", "name", "fullName"), ("UserWhereInput", "age", "years")] := by
    decide
  have made : ((people.draft separateAliases).catalog.inputs.find? "UserWhereInput").map
      (·.fields.keys) = some ["AND", "OR", "NOT", "id", "name", "age"] := by
    decide +kernel
  obtain ⟨created, found, fields⟩ := Option.map_eq_some_iff.1 made
  have fields_iff : ∀ field, people.HasInputField separateAliases "UserWhereInput" field ↔
      field ∈ ["AND", "OR", "NOT", "id", "name", "age"] := by
    intro field
    rw [Document.HasInputField, found, ← fields]
    simp
  have apart : people.DeclaresApart separateAliases := by
    intro inputType field exposed member
    rw [declared] at member
    rcases List.mem_pair.1 member with same | same
    · cases same
      rw [fields_iff, fields_iff]
      decide
    · cases same
      rw [fields_iff, fields_iff]
      decide
  exact ⟨apart, (alias_order_irrelevant_iff people separateAliases).2 (.inl apart)⟩

/-- The aliases of `chainedAliases`, and the name is taken before its field gives it up. -/
def crossedAliases : Settings where
  fieldAliases := .ofEntries
    [("UserWhereInput", .ofEntries [("age", "name"), ("name", "fullName")])]

theorem crossedAliases_refused :
    chainedAliases.Reorders crossedAliases ∧
      (∃ schema, Schema.generate people chainedAliases = .ok schema) ∧
      Schema.generate people crossedAliases =
        .error (.aliasTaken "UserWhereInput" "age" "name") ∧
      ¬ Alike (Schema.generate people chainedAliases) (Schema.generate people crossedAliases) := by
  have reorders : chainedAliases.Reorders crossedAliases :=
    ⟨rfl, _, .refl _, .cons ⟨rfl, .swap ..⟩ .nil⟩
  have generates : ∃ schema, Schema.generate people chainedAliases = .ok schema :=
    refusal?_eq_none.1 (by decide +kernel)
  have refused : Schema.generate people crossedAliases =
      .error (.aliasTaken "UserWhereInput" "age" "name") :=
    refusal?_eq_some.1 (by decide +kernel)
  refine ⟨reorders, generates, refused, fun alike => ?_⟩
  obtain ⟨schema, generated⟩ := generates
  rw [generated, refused] at alike
  cases alike

end GraphBinding
