import GraphBinding.Catalog
import GraphBinding.Proofs.Renaming

namespace GraphBinding.Catalog

/-! What requests do to a catalog.

`Registers` is everything that a request can do in one step: a new type enters under its
own name and all else stays.  Whatever such a step keeps is kept by every request.
-/

/-- What a catalog can be asked for. -/
inductive Request where
  | scalarFilter (graphName : String) (native : Scalar)
  | enumFilter (enumName : String)
  | relationListFilter (model : String)
  | scalarListFilter (element : String)
  | compoundInput (name : String) (fields : List InputField)
  | queryMode
  /-- A finished type. -/
  | define (type : InputType)

namespace Request

/-- The catalog after a request. -/
def fulfill (catalog : Catalog) : Request → Catalog
  | .scalarFilter graphName native => (catalog.scalarFilter graphName native).2
  | .enumFilter enumName => (catalog.enumFilter enumName).2
  | .relationListFilter model => (catalog.relationListFilter model).2
  | .scalarListFilter element => (catalog.scalarListFilter element).2
  | .compoundInput name fields => (catalog.compoundInput name fields).2
  | .queryMode => catalog.queryMode.2
  | .define type => (catalog.define type).2

/-- Only a type built elsewhere could have its fields under other names than their own. -/
def Keyed : Request → Prop
  | .define type => type.Keyed
  | _ => True

end Request

/-- One new type enters the catalog. -/
inductive Registers (before : Catalog) : Catalog → Prop where
  | input (type : InputType) (keyed : type.Keyed) (fresh : type.name ∉ before.inputs.keys) :
      Registers before { before with inputs := before.inputs.insert type.name type }
  | enum (type : EnumType) (fresh : type.name ∉ before.enums.keys) :
      Registers before { before with enums := before.enums.insert type.name type }

/-- New types enter the catalog one after the other. -/
abbrev Grows : Catalog → Catalog → Prop := Relation.ReflTransGen Registers

theorem mem_keys_of_find? {catalog : Catalog} {name : String} {type : InputType}
    (found : catalog.inputs.find? name = some type) :
    name ∈ catalog.inputs.keys :=
  (Table.contains_iff _ _).1 (by rw [Table.contains, found, Option.isSome_some])

theorem find?_of_mem_keys {catalog : Catalog} {name : String}
    (present : name ∈ catalog.inputs.keys) :
    ∃ type, catalog.inputs.find? name = some type :=
  Option.isSome_iff_exists.1 ((Table.contains_iff _ _).2 present)

theorem obtain_of_find? {catalog : Catalog} {name : String} {type : InputType}
    (build : Catalog → InputType × Catalog) (found : catalog.inputs.find? name = some type) :
    catalog.obtain name build = (type, catalog) := by
  simp only [obtain, found]

theorem obtain_of_fresh {catalog : Catalog} {name : String}
    (build : Catalog → InputType × Catalog) (fresh : catalog.inputs.find? name = none) :
    catalog.obtain name build =
      ((build catalog).1, { (build catalog).2 with
        inputs := (build catalog).2.inputs.insert name (build catalog).1 }) := by
  simp only [obtain, fresh]

theorem obtain_grows {catalog : Catalog} {name : String} {build : Catalog → InputType × Catalog}
    (named : (build catalog).1.name = name) (keyed : (build catalog).1.Keyed)
    (parts : catalog.Grows (build catalog).2)
    (still : name ∉ catalog.inputs.keys → name ∉ (build catalog).2.inputs.keys) :
    catalog.Grows (catalog.obtain name build).2 := by
  cases found : catalog.inputs.find? name with
  | some type =>
      rw [obtain_of_find? build found]
  | none =>
      rw [obtain_of_fresh build found]
      subst named
      have fresh := still ((Table.find?_eq_none _ _).1 found)
      exact parts.tail (.input (build catalog).1 keyed fresh)

theorem obtain_finished_grows (catalog : Catalog) (type : InputType) (keyed : type.Keyed) :
    catalog.Grows (catalog.obtain type.name fun catalog => (type, catalog)).2 :=
  obtain_grows rfl keyed .refl id

theorem queryMode_grows (catalog : Catalog) : catalog.Grows catalog.queryMode.2 := by
  cases found : catalog.enums.find? queryModeName with
  | some type =>
      simp only [queryMode, found]
      exact .refl
  | none =>
      simp only [queryMode, found]
      exact .single (.enum ⟨queryModeName, none, ["default", "insensitive"]⟩
        ((Table.find?_eq_none _ _).1 found))

theorem nestedStringFilter_grows (catalog : Catalog) :
    catalog.Grows catalog.nestedStringFilter.2 :=
  catalog.obtain_finished_grows Filter.nestedString (InputType.keyed_ofFields _ _)

theorem inputs_queryMode (catalog : Catalog) : catalog.queryMode.2.inputs = catalog.inputs := by
  cases found : catalog.enums.find? queryModeName <;> simp only [queryMode, found]

theorem find?_nestedStringFilter {catalog : Catalog} {name : String} {type : InputType}
    (found : catalog.nestedStringFilter.2.inputs.find? name = some type) :
    catalog.inputs.find? name = some type ∨
      name = nestedStringFilterName ∧ type = Filter.nestedString := by
  cases old : catalog.inputs.find? nestedStringFilterName with
  | some nested =>
      rw [nestedStringFilter, obtain_of_find? _ old] at found
      exact .inl found
  | none =>
      rw [nestedStringFilter, obtain_of_fresh _ old, Table.find?_insert] at found
      split at found
      · rename_i same
        cases found
        exact .inr ⟨same.symm, rfl⟩
      · exact .inl found

/-- Building the filter for texts adds no other type than the part it is negated by. -/
theorem find?_buildStringFilter {catalog : Catalog} {filter name : String} {type : InputType}
    (found : (buildStringFilter filter catalog).2.inputs.find? name = some type) :
    catalog.inputs.find? name = some type ∨
      name = nestedStringFilterName ∧ type = Filter.nestedString := by
  have part : catalog.queryMode.2.nestedStringFilter.2.inputs.find? name = some type := found
  have either := find?_nestedStringFilter part
  rwa [inputs_queryMode] at either

theorem buildStringFilter_grows (name : String) (catalog : Catalog) :
    catalog.Grows (buildStringFilter name catalog).2 :=
  catalog.queryMode_grows.trans (nestedStringFilter_grows _)

theorem scalarFilterName_string (native : Scalar) :
    scalarFilterName "String" native = "StringFilter" :=
  if_neg fun both => absurd both.1 (by decide)

/-- The filter for texts is none of its own parts. -/
theorem buildStringFilter_absent {catalog : Catalog}
    (absent : "StringFilter" ∉ catalog.inputs.keys) (filter : String) :
    "StringFilter" ∉ (buildStringFilter filter catalog).2.inputs.keys := by
  intro present
  obtain ⟨type, found⟩ := find?_of_mem_keys present
  rcases find?_buildStringFilter found with old | ⟨nested, -⟩
  · exact absent (mem_keys_of_find? old)
  · exact absurd nested (by decide)

theorem scalarFilter_grows (catalog : Catalog) (graphName : String) (native : Scalar) :
    catalog.Grows (catalog.scalarFilter graphName native).2 := by
  by_cases text : graphName = "String"
  · subst text
    rw [scalarFilter, if_pos rfl, scalarFilterName_string]
    exact obtain_grows rfl (InputType.keyed_ofFields _ _) (buildStringFilter_grows _ _)
      fun absent => buildStringFilter_absent absent _
  · cases operators : Filter.scalarOperators? graphName native with
    | none =>
        simp only [scalarFilter, if_neg text, operators]
        exact .refl
    | some fields =>
        simp only [scalarFilter, if_neg text, operators]
        exact catalog.obtain_finished_grows
          (Filter.negatable (scalarFilterName graphName native) fields)
          (InputType.keyed_ofFields _ _)

theorem Request.fulfill_grows (request : Request) (keyed : request.Keyed) (catalog : Catalog) :
    catalog.Grows (request.fulfill catalog) := by
  cases request with
  | scalarFilter graphName native => exact catalog.scalarFilter_grows graphName native
  | enumFilter enumName =>
      exact catalog.obtain_finished_grows (Filter.ofEnum enumName)
        (InputType.keyed_ofFields _ _)
  | relationListFilter model =>
      exact catalog.obtain_finished_grows (Filter.ofRelationList model)
        (InputType.keyed_ofFields _ _)
  | scalarListFilter element =>
      exact catalog.obtain_finished_grows (Filter.ofScalarList element)
        (InputType.keyed_ofFields _ _)
  | compoundInput name fields =>
      exact catalog.obtain_finished_grows (.ofFields name fields)
        (InputType.keyed_ofFields _ _)
  | queryMode => exact catalog.queryMode_grows
  | define type => exact catalog.obtain_finished_grows type keyed

variable {before after : Catalog}

theorem Registers.find? (step : before.Registers after) {name : String} {type : InputType}
    (found : before.inputs.find? name = some type) : after.inputs.find? name = some type := by
  cases step with
  | enum => exact found
  | input type keyed fresh =>
      rw [Table.find?_insert, if_neg]
      · exact found
      · rintro rfl
        exact fresh ((Table.contains_iff _ _).1 (by simp [Table.contains, found]))

theorem Registers.keyed (step : before.Registers after) {name : String} {type : InputType}
    (found : after.inputs.find? name = some type) :
    before.inputs.find? name = some type ∨ type.Keyed := by
  cases step with
  | enum => exact .inl found
  | input type keyed fresh =>
      rw [Table.find?_insert] at found
      split at found
      · cases found
        exact .inr keyed
      · exact .inl found

theorem Grows.find? (grows : before.Grows after) {name : String} {type : InputType}
    (found : before.inputs.find? name = some type) : after.inputs.find? name = some type := by
  induction grows with
  | refl => exact found
  | tail _ step ih => exact step.find? ih

theorem Grows.keyed (grows : before.Grows after) {name : String} {type : InputType}
    (found : after.inputs.find? name = some type) :
    before.inputs.find? name = some type ∨ type.Keyed := by
  induction grows with
  | refl => exact .inl found
  | tail _ step ih => exact (step.keyed found).elim ih .inr

end GraphBinding.Catalog
