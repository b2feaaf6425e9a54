import GraphBinding.Proofs.Registration

namespace GraphBinding

/-! Where the types of a catalog come from.

A type stands in a catalog because a request was made for it, or as a part of the filter for
texts.  `Stems` says so for all types at once, and one lemma for each kind of request keeps it.
-/

/-- The filter for texts. -/
def Filter.string : InputType :=
  .ofFields "StringFilter"
    (text "String" ++ [one "mode" queryModeName, one "not" nestedStringFilterName])

namespace Catalog

/-- Every type stands under its own name. -/
structure Named (catalog : Catalog) : Prop where
  inputs : ∀ {name type}, catalog.inputs.find? name = some type → type.name = name
  enums : ∀ {name type}, catalog.enums.find? name = some type → type.name = name

variable {before after catalog : Catalog} {name : String} {type : InputType}

theorem Named.empty : Named {} where
  inputs found := by cases found
  enums found := by cases found

theorem Named.insert (named : catalog.Named) (type : InputType) :
    Named { catalog with inputs := catalog.inputs.insert type.name type } := by
  refine ⟨fun {name other} found => ?_, named.enums⟩
  rw [Table.find?_insert] at found
  split at found
  · rename_i same
    cases found
    exact same
  · exact named.inputs found

theorem Named.insertEnum (named : catalog.Named) (type : EnumType) :
    Named { catalog with enums := catalog.enums.insert type.name type } := by
  refine ⟨named.inputs, fun {name other} found => ?_⟩
  rw [Table.find?_insert] at found
  split at found
  · rename_i same
    cases found
    exact same
  · exact named.enums found

theorem Registers.named (step : before.Registers after) (named : before.Named) : after.Named := by
  cases step with
  | input new keyed fresh => exact named.insert new
  | enum new fresh => exact named.insertEnum new

theorem Grows.named (grows : before.Grows after) (named : before.Named) : after.Named := by
  induction grows with
  | refl => exact named
  | tail _ step ih => exact step.named ih

theorem Grows.keys (grows : before.Grows after) (present : name ∈ before.inputs.keys) :
    name ∈ after.inputs.keys := by
  obtain ⟨type, found⟩ := find?_of_mem_keys present
  exact mem_keys_of_find? (grows.find? found)

theorem Grows.enumKeys (grows : before.Grows after) (present : name ∈ before.enums.keys) :
    name ∈ after.enums.keys := by
  induction grows with
  | refl => exact present
  | tail _ step ih =>
      cases step with
      | input => exact ih
      | enum new fresh =>
          rw [Table.keys_insert, if_neg fresh]
          exact List.mem_append_left _ ih

theorem Named.queryMode (named : catalog.Named) : catalog.queryMode.1.name = queryModeName := by
  cases found : catalog.enums.find? queryModeName with
  | none => simp only [Catalog.queryMode, found]
  | some mode =>
      simp only [Catalog.queryMode, found]
      exact named.enums found

/-- In a catalog whose types stand under their names the answer has the name asked for. -/
theorem Named.obtain (named : catalog.Named) {build : Catalog → InputType × Catalog}
    (built : (build catalog).1.name = name) : (catalog.obtain name build).1.name = name := by
  cases found : catalog.inputs.find? name with
  | some type =>
      rw [obtain_of_find? build found]
      exact named.inputs found
  | none =>
      rw [obtain_of_fresh build found]
      exact built

theorem Named.obtain_finished (named : catalog.Named) (type : InputType) :
    (catalog.obtain type.name fun catalog => (type, catalog)).1.name = type.name :=
  named.obtain rfl

theorem Named.buildStringFilter (named : catalog.Named) :
    (Catalog.buildStringFilter "StringFilter" catalog).1 = Filter.string := by
  have mode : catalog.queryMode.1.name = queryModeName := named.queryMode
  have nested : catalog.queryMode.2.nestedStringFilter.1.name = nestedStringFilterName :=
    ((queryMode_grows catalog).named named).obtain rfl
  simp only [Catalog.buildStringFilter, mode, nested]
  rfl

theorem enumKeys_queryMode (catalog : Catalog) :
    name ∈ catalog.queryMode.2.enums.keys ↔ name = queryModeName ∨ name ∈ catalog.enums.keys := by
  cases found : catalog.enums.find? queryModeName with
  | some mode =>
      have present : queryModeName ∈ catalog.enums.keys :=
        (Table.contains_iff _ _).1 (by rw [Table.contains, found, Option.isSome_some])
      simp only [queryMode, found]
      exact ⟨.inr, fun either => either.elim (fun same => same ▸ present) id⟩
  | none =>
      simp only [queryMode, found, Table.keys_insert, if_neg ((Table.find?_eq_none _ _).1 found),
        List.mem_append, List.mem_singleton]
      exact or_comm

theorem enums_nestedStringFilter (catalog : Catalog) :
    catalog.nestedStringFilter.2.enums = catalog.enums := by
  cases found : catalog.inputs.find? nestedStringFilterName <;>
    simp only [nestedStringFilter, obtain, found]

theorem mem_keys_obtain (catalog : Catalog) (build : Catalog → InputType × Catalog) :
    name ∈ (catalog.obtain name build).2.inputs.keys := by
  cases found : catalog.inputs.find? name with
  | some type =>
      rw [obtain_of_find? build found]
      exact mem_keys_of_find? found
  | none =>
      rw [obtain_of_fresh build found]
      have inserted := Table.find?_insert (build catalog).2.inputs name (build catalog).1 name
      rw [if_pos rfl] at inserted
      exact (Table.contains_iff _ _).1 (by rw [Table.contains, inserted, Option.isSome_some])

theorem enumKeys_buildStringFilter (filter : String) (catalog : Catalog) :
    name ∈ (buildStringFilter filter catalog).2.enums.keys ↔
      name = queryModeName ∨ name ∈ catalog.enums.keys := by
  change name ∈ catalog.queryMode.2.nestedStringFilter.2.enums.keys ↔ _
  rw [enums_nestedStringFilter, enumKeys_queryMode]

theorem nested_mem_keys_buildStringFilter (filter : String) (catalog : Catalog) :
    nestedStringFilterName ∈ (buildStringFilter filter catalog).2.inputs.keys :=
  catalog.queryMode.2.mem_keys_obtain fun catalog => (Filter.nestedString, catalog)

namespace Request

/-- The type that a request adds by itself, unless its name is taken. -/
def finished? : Request → Option InputType
  | .scalarFilter graphName native =>
      if graphName = "String" then none
      else
        (Filter.scalarOperators? graphName native).map
          (Filter.negatable (scalarFilterName graphName native))
  | .enumFilter enumName => some (Filter.ofEnum enumName)
  | .relationListFilter model => some (Filter.ofRelationList model)
  | .scalarListFilter element => some (Filter.ofScalarList element)
  | .compoundInput name fields => some (.ofFields name fields)
  | .queryMode => none
  | .define type => some type

theorem fulfill_finished {request : Request} {type : InputType}
    (finished : request.finished? = some type) (catalog : Catalog) :
    request.fulfill catalog = (catalog.obtain type.name fun catalog => (type, catalog)).2 := by
  cases request with
  | scalarFilter graphName native =>
      by_cases text : graphName = "String"
      · simp [finished?, text] at finished
      · simp only [finished?, if_neg text, Option.map_eq_some_iff] at finished
        obtain ⟨operators, found, rfl⟩ := finished
        simp only [fulfill, Catalog.scalarFilter, if_neg text, found]
        rfl
  | queryMode => cases finished
  | _ =>
      cases finished
      rfl

theorem fulfill_text (native : Scalar) (catalog : Catalog) :
    (Request.scalarFilter "String" native).fulfill catalog =
      (catalog.obtain "StringFilter" (buildStringFilter "StringFilter")).2 := by
  rw [fulfill, Catalog.scalarFilter, if_pos rfl, scalarFilterName_string]

/-- A request for operators that do not exist adds nothing. -/
theorem fulfill_idle {request : Request} (unfinished : request.finished? = none)
    (noText : ∀ native, request ≠ .scalarFilter "String" native) (noMode : request ≠ .queryMode)
    (catalog : Catalog) : request.fulfill catalog = catalog := by
  cases request with
  | scalarFilter graphName native =>
      have other : graphName ≠ "String" := fun text => noText native (text ▸ rfl)
      simp only [finished?, if_neg other, Option.map_eq_none_iff] at unfinished
      simp only [fulfill, Catalog.scalarFilter, if_neg other, unfinished]
  | queryMode => exact absurd rfl noMode
  | _ => cases unfinished

end Request

/-- The name under which the answer to a request stands. -/
def Request.name? : Request → Option String
  | .scalarFilter "String" _ => some "StringFilter"
  | request => request.finished?.map InputType.name

theorem Request.name?_finished {request : Request} (made : request.finished? = some type) :
    request.name? = some type.name := by
  unfold name?
  split
  · rw [finished?, if_pos rfl] at made
    cases made
  · rw [made]
    rfl

theorem Named.scalarFilter (named : catalog.Named) (graphName : String) (native : Scalar) :
    (catalog.scalarFilter graphName native).1.map InputType.name =
      (Request.scalarFilter graphName native).name? := by
  by_cases text : graphName = "String"
  · subst text
    rw [Catalog.scalarFilter, if_pos rfl, scalarFilterName_string, Request.name?]
    have answered :
        (catalog.obtain "StringFilter" (Catalog.buildStringFilter "StringFilter")).1.name =
          "StringFilter" := named.obtain (by rw [named.buildStringFilter]; rfl)
    exact congrArg some answered
  · have finished : (Request.scalarFilter graphName native).name? =
        (Request.scalarFilter graphName native).finished?.map InputType.name := by
      rw [Request.name?]
      intro other same
      exact absurd (Request.scalarFilter.inj same).1 text
    simp only [finished, Request.finished?, Catalog.scalarFilter, if_neg text]
    cases operators : Filter.scalarOperators? graphName native with
    | none => rfl
    | some fields =>
        exact congrArg some (named.obtain_finished (Filter.negatable _ fields))

theorem Named.compoundInput (named : catalog.Named) (name : String) (fields : List InputField) :
    (catalog.compoundInput name fields).1.name = name :=
  named.obtain_finished (.ofFields name fields)

theorem mem_keys_fulfill {request : Request} (answered : request.name? = some name)
    (catalog : Catalog) : name ∈ (request.fulfill catalog).inputs.keys := by
  unfold Request.name? at answered
  split at answered
  · cases answered
    rw [Request.fulfill_text]
    exact mem_keys_obtain _ _
  · obtain ⟨type, made, rfl⟩ := Option.map_eq_some_iff.1 answered
    rw [Request.fulfill_finished made]
    exact mem_keys_obtain _ _

theorem foldl_fulfill_grows {requests : List Request}
    (keyed : ∀ request ∈ requests, request.Keyed) (catalog : Catalog) :
    catalog.Grows (requests.foldl Request.fulfill catalog) := by
  induction requests generalizing catalog with
  | nil => exact .refl
  | cons request rest ih =>
      have first := request.fulfill_grows (keyed request (by simp)) catalog
      exact first.trans (ih (fun other member => keyed other (by simp [member])) _)

theorem mem_keys_foldl_fulfill {requests : List Request}
    (keyed : ∀ request ∈ requests, request.Keyed) {request : Request} (member : request ∈ requests)
    (answered : request.name? = some name) (catalog : Catalog) :
    name ∈ (requests.foldl Request.fulfill catalog).inputs.keys := by
  induction requests generalizing catalog with
  | nil => cases member
  | cons first rest ih =>
      have later : ∀ request ∈ rest, request.Keyed :=
        fun other inRest => keyed other (by simp [inRest])
      rcases List.mem_cons.1 member with rfl | inRest
      · exact (foldl_fulfill_grows later _).keys (mem_keys_fulfill answered catalog)
      · exact ih later inRest _

/-- Why a type stands in a catalog. -/
inductive Origin (asked : List Request) (catalog : Catalog) : InputType → Prop where
  | finished {request : Request} {type : InputType} (member : request ∈ asked)
      (made : request.finished? = some type) : Origin asked catalog type
  | string {native : Scalar} (member : Request.scalarFilter "String" native ∈ asked)
      (mode : queryModeName ∈ catalog.enums.keys)
      (nested : nestedStringFilterName ∈ catalog.inputs.keys) : Origin asked catalog Filter.string
  | nested (string : catalog.inputs.find? "StringFilter" = some Filter.string) :
      Origin asked catalog Filter.nestedString

theorem Origin.grows {asked : List Request} (origin : Origin asked before type)
    (grows : before.Grows after) : Origin asked after type := by
  cases origin with
  | finished member made => exact .finished member made
  | string member mode nested => exact .string member (grows.enumKeys mode) (grows.keys nested)
  | nested string => exact .nested (grows.find? string)

/-- All types of a catalog stem from the requests. -/
structure Stems (asked : List Request) (catalog : Catalog) : Prop where
  named : catalog.Named
  inputs : ∀ {name type}, catalog.inputs.find? name = some type → Origin asked catalog type
  enums : ∀ {name}, name ∈ catalog.enums.keys → name = queryModeName ∧
    (Request.queryMode ∈ asked ∨ catalog.inputs.find? "StringFilter" = some Filter.string)

namespace Stems

variable {asked : List Request}

theorem empty : Stems asked {} where
  named := .empty
  inputs found := by cases found
  enums member := by cases member

theorem finished (stems : Stems asked catalog) {request : Request} (member : request ∈ asked)
    (keyed : request.Keyed) (made : request.finished? = some type) :
    Stems asked (request.fulfill catalog) := by
  have grows := request.fulfill_grows keyed catalog
  rw [Request.fulfill_finished made] at grows ⊢
  cases old : catalog.inputs.find? type.name with
  | some former => rwa [obtain_of_find? _ old]
  | none =>
      rw [obtain_of_fresh _ old] at grows ⊢
      refine ⟨grows.named stems.named, fun {name other} found => ?_, fun {name} present => ?_⟩
      · have asFound := found
        rw [Table.find?_insert] at found
        split at found
        · cases found
          exact .finished member made
        · exact (stems.inputs found).grows grows
      · obtain ⟨isMode, reason⟩ := stems.enums present
        exact ⟨isMode, reason.imp_right grows.find?⟩

/-- The filter for texts enters together with the parts that it refers to. -/
theorem text (stems : Stems asked catalog) {native : Scalar}
    (member : Request.scalarFilter "String" native ∈ asked) :
    Stems asked ((Request.scalarFilter "String" native).fulfill catalog) := by
  have grows := (Request.scalarFilter "String" native).fulfill_grows trivial catalog
  rw [Request.fulfill_text] at grows ⊢
  cases old : catalog.inputs.find? "StringFilter" with
  | some former => rwa [obtain_of_find? _ old]
  | none =>
      rw [obtain_of_fresh _ old, stems.named.buildStringFilter] at grows ⊢
      generalize parts : (buildStringFilter "StringFilter" catalog).2 = built at grows ⊢
      have string : (built.inputs.insert "StringFilter" Filter.string).find? "StringFilter" =
          some Filter.string := by
        rw [Table.find?_insert, if_pos rfl]
      have mode : queryModeName ∈ built.enums.keys := by
        rw [← parts, enumKeys_buildStringFilter]
        exact .inl rfl
      have nested : nestedStringFilterName ∈
          (built.inputs.insert "StringFilter" Filter.string).keys := by
        have part := nested_mem_keys_buildStringFilter "StringFilter" catalog
        rw [parts] at part
        exact (Table.mem_keys_insert _ _ _).2 (.inl part)
      refine ⟨grows.named stems.named, fun {name other} found => ?_, fun {name} present => ?_⟩
      · rw [Table.find?_insert] at found
        split at found
        · cases found
          exact .string member mode nested
        · rw [← parts] at found
          rcases find?_buildStringFilter found with former | ⟨-, isNested⟩
          · exact (stems.inputs former).grows grows
          · rw [isNested]
            exact .nested string
      · change name ∈ built.enums.keys at present
        rw [← parts, enumKeys_buildStringFilter] at present
        rcases present with isMode | former
        · exact ⟨isMode, .inr string⟩
        · exact ⟨(stems.enums former).1, .inr string⟩

theorem mode (stems : Stems asked catalog) (member : Request.queryMode ∈ asked) :
    Stems asked (Request.queryMode.fulfill catalog) := by
  have grows := Request.queryMode.fulfill_grows trivial catalog
  refine ⟨grows.named stems.named, fun {name other} found => ?_, fun {name} present => ?_⟩
  · rw [show (Request.queryMode.fulfill catalog).inputs = catalog.inputs from
      catalog.inputs_queryMode] at found
    exact (stems.inputs found).grows grows
  · rcases catalog.enumKeys_queryMode.1 present with isMode | former
    · exact ⟨isMode, .inl member⟩
    · exact ⟨(stems.enums former).1, .inl member⟩

theorem fulfill (stems : Stems asked catalog) {request : Request} (member : request ∈ asked)
    (keyed : request.Keyed) : Stems asked (request.fulfill catalog) := by
  cases made : request.finished? with
  | some type => exact stems.finished member keyed made
  | none =>
      by_cases isText : ∃ native, request = .scalarFilter "String" native
      · obtain ⟨native, rfl⟩ := isText
        exact stems.text member
      · by_cases isMode : request = .queryMode
        · subst isMode
          exact stems.mode member
        · rwa [Request.fulfill_idle made (fun native same => isText ⟨native, same⟩) isMode]

theorem foldl_fulfill {requests : List Request} (members : ∀ request ∈ requests, request ∈ asked)
    (keyed : ∀ request ∈ requests, request.Keyed) (stems : Stems asked catalog) :
    Stems asked (requests.foldl Request.fulfill catalog) := by
  induction requests generalizing catalog with
  | nil => exact stems
  | cons request rest ih =>
      have first := stems.fulfill (members request (by simp)) (keyed request (by simp))
      exact ih (fun other member => members other (by simp [member]))
        (fun other member => keyed other (by simp [member])) first

end Stems

end Catalog

end GraphBinding
