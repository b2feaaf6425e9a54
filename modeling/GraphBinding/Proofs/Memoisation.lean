import GraphBinding.Proofs.References

namespace GraphBinding.Catalog

/-! Runs of requests to one catalog.

Whatever was asked for before, a request meets a catalog whose types stand under their own names.
It only ever adds types at the end, and where its name is taken the type of that name is its
answer.  That holds although a type may be given to the catalog under any name, also under those
of the parts that the filter for texts asks for while it is built.
-/

/-- A type of either kind. -/
inductive Definition where
  | input (type : InputType)
  | enum (type : EnumType)

def Definition.name : Definition → String
  | .input type => type.name
  | .enum type => type.name

/-- The type stands in the catalog under its name. -/
def Holds (catalog : Catalog) : Definition → Prop
  | .input type => catalog.inputs.find? type.name = some type
  | .enum type => catalog.enums.find? type.name = some type

/-- All types stay, in their places. -/
structure Extends (before after : Catalog) : Prop where
  inputs : before.inputs.entries <+: after.inputs.entries
  enums : before.enums.entries <+: after.enums.entries

variable {before after catalog : Catalog} {name : String}

theorem Extends.refl (catalog : Catalog) : catalog.Extends catalog :=
  ⟨List.prefix_rfl, List.prefix_rfl⟩

theorem Extends.trans {middle : Catalog} (first : before.Extends middle)
    (second : middle.Extends after) : before.Extends after :=
  ⟨first.inputs.trans second.inputs, first.enums.trans second.enums⟩

theorem prefix_insert {α : Type} {table : Table α} (fresh : name ∉ table.keys) (value : α) :
    table.entries <+: (table.insert name value).entries :=
  ⟨[(name, value)], (Entries.insert_of_not_mem value fresh).symm⟩

theorem extends_insert (fresh : name ∉ catalog.inputs.keys) (type : InputType) :
    catalog.Extends { catalog with inputs := catalog.inputs.insert name type } :=
  ⟨prefix_insert fresh type, List.prefix_rfl⟩

theorem Grows.extends (grows : before.Grows after) : before.Extends after := by
  induction grows with
  | refl => exact .refl before
  | tail _ step ih =>
      apply ih.trans
      cases step with
      | input type keyed fresh => exact extends_insert fresh type
      | enum type fresh => exact ⟨List.prefix_rfl, prefix_insert fresh type⟩

namespace Request

/-- The name that is asked for. -/
def wanted : Request → String
  | .scalarFilter graphName native => scalarFilterName graphName native
  | .enumFilter enumName => enumFilterName enumName
  | .relationListFilter model => listFilterName model
  | .scalarListFilter element => scalarListFilterName element
  | .compoundInput name _ => name
  | .queryMode => queryModeName
  | .define type => type.name

/-- The name is taken. -/
def Known (catalog : Catalog) : Request → Prop
  | .queryMode => queryModeName ∈ catalog.enums.keys
  | request => request.wanted ∈ catalog.inputs.keys

/-- The type with which a catalog answers. -/
def reply? (catalog : Catalog) : Request → Option Definition
  | .scalarFilter graphName native => (catalog.scalarFilter graphName native).1.map .input
  | .enumFilter enumName => some (.input (catalog.enumFilter enumName).1)
  | .relationListFilter model => some (.input (catalog.relationListFilter model).1)
  | .scalarListFilter element => some (.input (catalog.scalarListFilter element).1)
  | .compoundInput name fields => some (.input (catalog.compoundInput name fields).1)
  | .queryMode => some (.enum catalog.queryMode.1)
  | .define type => some (.input (catalog.define type).1)

/-- The request obtains an input type, which is built in a certain way if there is none. -/
structure Obtains (request : Request) (build : Catalog → InputType × Catalog) : Prop where
  fulfill : ∀ catalog, request.fulfill catalog = (catalog.obtain request.wanted build).2
  reply : ∀ catalog,
    request.reply? catalog = some (.input (catalog.obtain request.wanted build).1)
  known : ∀ {catalog}, request.Known catalog → request.wanted ∈ catalog.inputs.keys
  built : ∀ catalog, (build catalog).1.name = request.wanted
  parts : ∀ catalog : Catalog, catalog.Grows (build catalog).2
  /-- Building does not come upon the type that is built. -/
  apart : ∀ {catalog : Catalog}, request.wanted ∉ catalog.inputs.keys →
    request.wanted ∉ (build catalog).2.inputs.keys

theorem obtains_finished {request : Request} {type : InputType}
    (made : request.finished? = some type) : request.Obtains fun catalog => (type, catalog) := by
  cases request with
  | scalarFilter graphName native =>
      by_cases text : graphName = "String"
      · rw [finished?, if_pos text] at made
        cases made
      · rw [finished?, if_neg text] at made
        obtain ⟨operators, found, rfl⟩ := Option.map_eq_some_iff.1 made
        refine ⟨fun catalog => ?_, fun catalog => ?_, id, fun _ => rfl, fun _ => .refl, id⟩
        · simp only [Request.fulfill, Catalog.scalarFilter, if_neg text, found, wanted]
        · simp only [reply?, Catalog.scalarFilter, if_neg text, found, wanted, Option.map_some]
  | queryMode => cases made
  | _ =>
      cases made
      exact ⟨fun _ => rfl, fun _ => rfl, id, fun _ => rfl, fun _ => .refl, id⟩

theorem obtains_text (native : Scalar) :
    (Request.scalarFilter "String" native).Obtains (buildStringFilter "StringFilter") := by
  have name : (Request.scalarFilter "String" native).wanted = "StringFilter" :=
    scalarFilterName_string native
  refine ⟨fun catalog => ?_, fun catalog => ?_, id, fun _ => name.symm,
    buildStringFilter_grows _, ?_⟩
  · rw [fulfill_text, name]
  · rw [reply?, Catalog.scalarFilter, if_pos rfl, name, scalarFilterName_string]
    rfl
  · rw [name]
    exact fun absent => buildStringFilter_absent absent _

/-- Of all requests only that for the ways of comparison obtains an enum, and those for scalars
without a filter obtain nothing. -/
theorem obtains_or (request : Request) :
    (∃ build, request.Obtains build) ∨ request = .queryMode ∨
      ∃ graphName native, request = .scalarFilter graphName native ∧
        ∀ catalog, request.fulfill catalog = catalog ∧ request.reply? catalog = none := by
  cases made : request.finished? with
  | some type => exact .inl ⟨_, obtains_finished made⟩
  | none =>
      cases request with
      | scalarFilter graphName native =>
          by_cases text : graphName = "String"
          · subst text
            exact .inl ⟨_, obtains_text native⟩
          · rw [finished?, if_neg text, Option.map_eq_none_iff] at made
            refine .inr (.inr ⟨graphName, native, rfl, fun catalog => ⟨?_, ?_⟩⟩)
            · simp only [fulfill, Catalog.scalarFilter, if_neg text, made]
            · simp only [reply?, Catalog.scalarFilter, if_neg text, made, Option.map_none]
      | queryMode => exact .inr (.inl rfl)
      | _ => cases made

namespace Obtains

variable {request : Request} {build : Catalog → InputType × Catalog}

theorem of_find? (obtains : request.Obtains build) {type : InputType}
    (found : catalog.inputs.find? request.wanted = some type) :
    request.fulfill catalog = catalog ∧ request.reply? catalog = some (.input type) := by
  rw [obtains.fulfill, obtains.reply, obtain_of_find? build found]
  exact ⟨rfl, rfl⟩

theorem of_fresh (obtains : request.Obtains build)
    (fresh : catalog.inputs.find? request.wanted = none) :
    request.fulfill catalog = { (build catalog).2 with
        inputs := (build catalog).2.inputs.insert request.wanted (build catalog).1 } ∧
      request.reply? catalog = some (.input (build catalog).1) := by
  rw [obtains.fulfill, obtains.reply, obtain_of_fresh build fresh]
  exact ⟨rfl, rfl⟩

theorem fulfill_extends (obtains : request.Obtains build) (catalog : Catalog) :
    catalog.Extends (request.fulfill catalog) := by
  cases found : catalog.inputs.find? request.wanted with
  | some type =>
      rw [(obtains.of_find? found).1]
      exact .refl catalog
  | none =>
      rw [(obtains.of_fresh found).1]
      apply (obtains.parts catalog).extends.trans
      exact extends_insert (obtains.apart ((Table.find?_eq_none _ _).1 found)) _

theorem named (obtains : request.Obtains build) (named : catalog.Named) :
    (request.fulfill catalog).Named := by
  cases found : catalog.inputs.find? request.wanted with
  | some type => rwa [(obtains.of_find? found).1]
  | none =>
      rw [(obtains.of_fresh found).1, ← obtains.built catalog]
      exact ((obtains.parts catalog).named named).insert _

theorem answered (obtains : request.Obtains build) (named : catalog.Named)
    {definition : Definition} (answer : request.reply? catalog = some definition) :
    definition.name = request.wanted ∧ (request.fulfill catalog).Holds definition := by
  cases found : catalog.inputs.find? request.wanted with
  | some type =>
      obtain ⟨unchanged, replied⟩ := obtains.of_find? found
      rw [replied] at answer
      cases answer
      have name : type.name = request.wanted := named.inputs found
      rw [unchanged, Holds, name]
      exact ⟨name, found⟩
  | none =>
      obtain ⟨entered, replied⟩ := obtains.of_fresh found
      rw [replied] at answer
      cases answer
      rw [entered, Holds, obtains.built, Table.find?_insert, if_pos rfl]
      exact ⟨obtains.built catalog, rfl⟩

theorem idle (obtains : request.Obtains build) (known : request.Known catalog) :
    request.fulfill catalog = catalog := by
  obtain ⟨type, found⟩ := find?_of_mem_keys (obtains.known known)
  exact (obtains.of_find? found).1

end Obtains

end Request

theorem Named.answered_queryMode (named : catalog.Named) :
    catalog.queryMode.1.name = queryModeName ∧
      catalog.queryMode.2.enums.find? queryModeName = some catalog.queryMode.1 := by
  refine ⟨named.queryMode, ?_⟩
  cases found : catalog.enums.find? queryModeName with
  | some mode => simp only [Catalog.queryMode, found]
  | none =>
      simp only [Catalog.queryMode, found]
      rw [Table.find?_insert, if_pos rfl]

theorem queryMode_idle (known : queryModeName ∈ catalog.enums.keys) :
    catalog.queryMode.2 = catalog := by
  obtain ⟨mode, found⟩ := Option.isSome_iff_exists.1 ((Table.contains_iff _ _).2 known)
  simp only [queryMode, found]

/-- The name of a scalar, or of a type in the catalog. -/
def Resolves (catalog : Catalog) (name : String) : Prop :=
  name ∈ nativeNames ∨ name ∈ catalog.inputs.keys ∨ name ∈ catalog.enums.keys

namespace Request

/-- The type comes into the catalog with the request. -/
def Enters (request : Request) (catalog : Catalog) (type : InputType) : Prop :=
  ∃ name, catalog.inputs.find? name = none ∧
    (request.fulfill catalog).inputs.find? name = some type

/-- A type that was not there before a request for a finished type is that type. -/
theorem entered_finished {request : Request} {made type : InputType}
    (finished : request.finished? = some made) (enters : request.Enters catalog type) :
    type = made ∧ made.name ∈ (request.fulfill catalog).inputs.keys := by
  obtain ⟨name, fresh, entered⟩ := enters
  have obtains := obtains_finished finished
  have wanted : made.name = request.wanted := obtains.built catalog
  have present : made.name ∈ (request.fulfill catalog).inputs.keys := by
    rw [wanted, obtains.fulfill]
    exact mem_keys_obtain catalog _
  refine ⟨?_, present⟩
  cases taken : catalog.inputs.find? request.wanted with
  | some former =>
      rw [(obtains.of_find? taken).1, fresh] at entered
      cases entered
  | none =>
      rw [(obtains.of_fresh taken).1, Table.find?_insert, fresh] at entered
      split at entered
      · exact (Option.some.inj entered).symm
      · cases entered

/-- The filter for texts enters with both of its parts, of which one may be new as well. -/
theorem entered_text (named : catalog.Named) {native : Scalar} {type : InputType}
    (enters : (Request.scalarFilter "String" native).Enters catalog type) :
    (type = Filter.string ∨ type = Filter.nestedString) ∧
      nestedStringFilterName ∈
        ((Request.scalarFilter "String" native).fulfill catalog).inputs.keys ∧
      queryModeName ∈ ((Request.scalarFilter "String" native).fulfill catalog).enums.keys := by
  obtain ⟨name, fresh, entered⟩ := enters
  have obtains := obtains_text native
  cases taken : catalog.inputs.find? (Request.scalarFilter "String" native).wanted with
  | some former =>
      rw [(obtains.of_find? taken).1, fresh] at entered
      cases entered
  | none =>
      rw [(obtains.of_fresh taken).1, named.buildStringFilter] at entered ⊢
      refine ⟨?_, (Table.mem_keys_insert _ _ _).2 (.inl (nested_mem_keys_buildStringFilter _ _)),
        (enumKeys_buildStringFilter _ _).2 (.inl rfl)⟩
      rw [Table.find?_insert] at entered
      split at entered
      · exact .inl (Option.some.inj entered).symm
      · rcases find?_buildStringFilter entered with old | ⟨-, nested⟩
        · rw [fresh] at old
          cases old
        · exact .inr nested

theorem resolves_scalarFilter (named : catalog.Named) {graphName used : String} {native : Scalar}
    {type : InputType} (enters : (Request.scalarFilter graphName native).Enters catalog type)
    (refers : type.Refers used) :
    ((Request.scalarFilter graphName native).fulfill catalog).Resolves used := by
  by_cases text : graphName = "String"
  · subst text
    obtain ⟨rfl | rfl, nested, mode⟩ := entered_text named enters
    · rcases Filter.refers_string refers with rfl | rfl | rfl
      · exact .inl (by decide)
      · exact .inr (.inr mode)
      · exact .inr (.inl nested)
    · rw [Filter.refers_nestedString refers]
      exact .inl (by decide)
  · cases found : Filter.scalarOperators? graphName native with
    | none =>
        have idle : (Request.scalarFilter graphName native).fulfill catalog = catalog := by
          simp only [fulfill, Catalog.scalarFilter, if_neg text, found]
        obtain ⟨name, fresh, entered⟩ := enters
        rw [idle, fresh] at entered
        cases entered
    | some operators =>
        have finished : (Request.scalarFilter graphName native).finished? =
            some (Filter.negatable (scalarFilterName graphName native) operators) := by
          rw [finished?, if_neg text, found, Option.map_some]
        obtain ⟨rfl, itself⟩ := entered_finished finished enters
        rcases Filter.refers_negatable refers with ⟨field, member, rfl⟩ | rfl
        · exact .inl (Filter.baseName_scalarOperators found member)
        · exact .inr (.inl itself)

theorem resolves_enumFilter {enumName used : String} {type : InputType}
    (enters : (Request.enumFilter enumName).Enters catalog type) (refers : type.Refers used) :
    used = enumName ∨ ((Request.enumFilter enumName).fulfill catalog).Resolves used := by
  obtain ⟨rfl, itself⟩ := entered_finished rfl enters
  rcases Filter.refers_ofEnum refers with rfl | rfl
  · exact .inl rfl
  · exact .inr (.inr (.inl itself))

/-- What a request does to the catalog that it is made to, and how it is answered. -/
structure Memoised (request : Request) (catalog : Catalog) : Prop where
  named : (request.fulfill catalog).Named
  extension : catalog.Extends (request.fulfill catalog)
  answered : ∀ definition, request.reply? catalog = some definition →
    definition.name = request.wanted ∧ (request.fulfill catalog).Holds definition
  known : request.Known catalog → request.fulfill catalog = catalog
  /-- Only scalars may have no filter. -/
  unanswered : request.reply? catalog = none → request.fulfill catalog = catalog ∧
    ∃ graphName native, request = .scalarFilter graphName native
  scalars : ∀ graphName native, request = .scalarFilter graphName native →
    ∀ type, request.Enters catalog type →
      ∀ used, type.Refers used → (request.fulfill catalog).Resolves used
  enums : ∀ enumName, request = .enumFilter enumName →
    ∀ type, request.Enters catalog type →
      ∀ used, type.Refers used → used = enumName ∨ (request.fulfill catalog).Resolves used

end Request

theorem Named.memoised (named : catalog.Named) (request : Request) :
    request.Memoised catalog := by
  have scalars : ∀ graphName native, request = .scalarFilter graphName native →
      ∀ type, request.Enters catalog type →
        ∀ used, type.Refers used → (request.fulfill catalog).Resolves used := by
    rintro graphName native rfl type enters used refers
    exact Request.resolves_scalarFilter named enters refers
  have enums : ∀ enumName, request = .enumFilter enumName →
      ∀ type, request.Enters catalog type →
        ∀ used, type.Refers used → used = enumName ∨ (request.fulfill catalog).Resolves used := by
    rintro enumName rfl type enters used refers
    exact Request.resolves_enumFilter enters refers
  rcases request.obtains_or with ⟨build, obtains⟩ | rfl | ⟨graphName, native, rfl, idle⟩
  · refine ⟨obtains.named named, obtains.fulfill_extends catalog,
      fun _ => obtains.answered named, obtains.idle, fun none => ?_, scalars, enums⟩
    rw [obtains.reply] at none
    cases none
  · have grows := catalog.queryMode_grows
    refine ⟨grows.named named, grows.extends, fun definition answer => ?_, queryMode_idle,
      fun none => ?_, scalars, enums⟩
    · cases answer
      have answered := named.answered_queryMode
      refine ⟨answered.1, ?_⟩
      rw [Holds, answered.1]
      exact answered.2
    · cases none
  · obtain ⟨unchanged, unanswered⟩ := idle catalog
    refine ⟨unchanged.symm ▸ named, unchanged.symm ▸ .refl catalog, fun definition answer => ?_,
      fun _ => unchanged, fun _ => ⟨unchanged, graphName, native, rfl⟩, scalars, enums⟩
    rw [unanswered] at answer
    cases answer

theorem Named.foldl_fulfill (named : catalog.Named) (requests : List Request) :
    (requests.foldl Request.fulfill catalog).Named := by
  induction requests generalizing catalog with
  | nil => exact named
  | cons request rest ih => exact ih (named.memoised request).named

/-- Every request of a run that starts with an empty catalog is remembered: its type is there
afterwards under the name that was asked for, nothing that was there before is lost, replaced or
moved, and asking again for a name changes nothing.  The types that filters of scalars and enums
refer to are there together with the filters. -/
theorem requests_are_memoised (earlier : List Request) (request : Request) :
    request.Memoised (earlier.foldl Request.fulfill Catalog.empty) :=
  (Named.empty.foldl_fulfill earlier).memoised request

end GraphBinding.Catalog
