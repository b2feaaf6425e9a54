import GraphBinding.Identity

namespace GraphBinding

/-! Where the identity of a model's records comes from.

What may identify records stands in six tiers.  A tier offers at most one list of fields, and the
first tier that offers any decides, whatever the later ones have.
-/

inductive Tier where
  | identifierField
  | primaryKey
  /-- The older form of the compound primary key. -/
  | idFields
  | uniqueField
  | uniqueGroup
  | uniqueIndex
deriving DecidableEq

namespace Tier

/-- All tiers, the first to be asked first. -/
def all : List Tier :=
  [.identifierField, .primaryKey, .idFields, .uniqueField, .uniqueGroup, .uniqueIndex]

theorem mem_all (tier : Tier) : tier ∈ all := by
  cases tier <;> decide

end Tier

/-- The first of some items that has a property. -/
def IsFirst {α : Type} (items : List α) (has : α → Prop) (item : α) : Prop :=
  has item ∧ ∃ before after, items = before ++ item :: after ∧ ∀ other ∈ before, ¬ has other

theorem find?_eq_some_iff_isFirst {α : Type} {items : List α} {has : α → Bool} {item : α} :
    items.find? has = some item ↔ IsFirst items (has · = true) item := by
  simp only [List.find?_eq_some_iff_append, IsFirst, Bool.not_eq_true', Bool.not_eq_true]

namespace Model

/-- What a tier has to identify the records of a model by. -/
def Offers (model : Model) (identifiers : List String) : Tier → Prop
  | .identifierField => ∃ before field after, model.fields = before ++ field :: after ∧
      field.isId = true ∧ (∀ other ∈ before ++ after, other.isId = false) ∧
      [field.name] = identifiers
  | .primaryKey => ∃ key, model.primaryKey = some key ∧ key.fields = identifiers ∧ identifiers ≠ []
  | .idFields => model.idFields = identifiers ∧ identifiers ≠ []
  | .uniqueField => ∃ field, IsFirst model.fields (·.isUnique = true) field ∧
      [field.name] = identifiers
  | .uniqueGroup => IsFirst model.uniqueFields (· ≠ []) identifiers
  | .uniqueIndex => ∃ index, IsFirst model.uniqueIndexes (·.fields ≠ []) index ∧
      index.fields = identifiers

def Applies (model : Model) (tier : Tier) : Prop :=
  ∃ identifiers, model.Offers identifiers tier

variable {model : Model} {identifiers : List String} {tier : Tier}

theorem Offers.ne_nil (offers : model.Offers identifiers tier) : identifiers ≠ [] := by
  cases tier with
  | identifierField =>
      obtain ⟨before, field, after, -, -, -, rfl⟩ := offers
      exact List.cons_ne_nil field.name []
  | primaryKey =>
      obtain ⟨key, -, -, nonempty⟩ := offers
      exact nonempty
  | idFields => exact offers.2
  | uniqueField =>
      obtain ⟨field, -, rfl⟩ := offers
      exact List.cons_ne_nil field.name []
  | uniqueGroup => exact offers.1
  | uniqueIndex =>
      obtain ⟨index, first, rfl⟩ := offers
      exact first.1

def offer? (model : Model) : Tier → Option (List String)
  | .identifierField =>
      match model.fields.filter (·.isId) with
      | [field] => some [field.name]
      | _ => none
  | .primaryKey => (model.primaryKey.map KeyGroup.fields).filter (!·.isEmpty)
  | .idFields => (some model.idFields).filter (!·.isEmpty)
  | .uniqueField => (model.fields.find? (·.isUnique)).map ([·.name])
  | .uniqueGroup => model.uniqueFields.find? (!·.isEmpty)
  | .uniqueIndex => (model.uniqueIndexes.find? (!·.fields.isEmpty)).map KeyGroup.fields

/-- A field stands alone with its mark if and only if all fields around it are without. -/
theorem filter_isId_eq_singleton {field : Field} :
    model.fields.filter (·.isId) = [field] ↔
      ∃ before after, model.fields = before ++ field :: after ∧ field.isId = true ∧
        ∀ other ∈ before ++ after, other.isId = false := by
  rw [List.filter_eq_cons_iff]
  simp only [List.filter_eq_nil_iff, List.forall_mem_append, Bool.not_eq_true]
  constructor
  · rintro ⟨before, after, split, plain, isId, others⟩
    exact ⟨before, after, split, isId, plain, others⟩
  · rintro ⟨before, after, split, isId, plain, others⟩
    exact ⟨before, after, split, plain, isId, others⟩

theorem offer?_eq_some : model.offer? tier = some identifiers ↔ model.Offers identifiers tier := by
  cases tier with
  | identifierField =>
      constructor
      · intro offered
        rw [offer?] at offered
        split at offered
        · rename_i field alone
          cases offered
          obtain ⟨before, after, split, isId, others⟩ := filter_isId_eq_singleton.1 alone
          exact ⟨before, field, after, split, isId, others, rfl⟩
        · cases offered
      · rintro ⟨before, field, after, split, isId, others, rfl⟩
        rw [offer?, filter_isId_eq_singleton.2 ⟨before, after, split, isId, others⟩]
  | primaryKey => simp [offer?, Offers, Option.filter_eq_some_iff, ← exists_and_right, and_assoc]
  | idFields => simp [offer?, Offers, Option.filter_eq_some_iff]
  | uniqueField => simp only [offer?, Offers, Option.map_eq_some_iff, find?_eq_some_iff_isFirst]
  | uniqueGroup => simp [offer?, Offers, find?_eq_some_iff_isFirst]
  | uniqueIndex => simp [offer?, Offers, find?_eq_some_iff_isFirst]

theorem offer?_eq_none : model.offer? tier = none ↔ ¬ model.Applies tier := by
  simp only [Applies, ← offer?_eq_some, Option.eq_none_iff_forall_ne_some, not_exists]

theorem offer?_key :
    (model.offer? .primaryKey).or (model.offer? .idFields) =
      if model.primaryKeyFields.isEmpty then none else some model.primaryKeyFields := by
  unfold primaryKeyFields
  cases keyed : model.primaryKey with
  | none => simp [offer?, keyed, Option.filter]
  | some key =>
      by_cases empty : key.fields.isEmpty
      · simp [offer?, keyed, Option.filter, empty]
      · simp [offer?, keyed, Option.filter, empty]

theorem offer?_group :
    (model.offer? .uniqueGroup).or (model.offer? .uniqueIndex) = model.uniqueGroup? := by
  rw [uniqueGroup?, List.find?_append, List.find?_map]
  rfl

theorem findSome?_offer? : Tier.all.findSome? model.offer? =
    (model.offer? .identifierField).or
      (((model.offer? .primaryKey).or (model.offer? .idFields)).or
        ((model.offer? .uniqueField).or
          ((model.offer? .uniqueGroup).or (model.offer? .uniqueIndex)))) := by
  have next (tier : Tier) (later : List Tier) :
      (tier :: later).findSome? model.offer? =
        (model.offer? tier).or (later.findSome? model.offer?) := by
    rw [List.findSome?_cons]
    cases model.offer? tier <;> rfl
  rw [Tier.all, next, next, next, next, next, next, List.findSome?_nil, Option.or_none,
    Option.or_assoc]

/-- The identity is the first offer that a tier makes. -/
theorem identifiers?_eq : model.identifiers? = Tier.all.findSome? model.offer? := by
  rw [findSome?_offer?, offer?_key, offer?_group, identifiers?, offer?, offer?]
  generalize model.fields.filter (·.isId) = marked
  by_cases empty : model.primaryKeyFields.isEmpty
  · rw [if_neg (not_not_intro empty), if_pos empty, Option.none_or]
    cases model.fields.find? (·.isUnique) <;>
      rcases marked with - | ⟨field, - | ⟨second, rest⟩⟩ <;> rfl
  · rw [if_pos empty, if_neg empty, Option.some_or]
    rcases marked with - | ⟨field, - | ⟨second, rest⟩⟩ <;> rfl

theorem identifiers?_eq_some : model.identifiers? = some identifiers ↔
    ∃ earlier tier later, Tier.all = earlier ++ tier :: later ∧
      model.Offers identifiers tier ∧ ∀ other ∈ earlier, ¬ model.Applies other := by
  simp only [identifiers?_eq, List.findSome?_eq_some_iff, offer?_eq_some, offer?_eq_none]

theorem identifiers?_eq_none : model.identifiers? = none ↔ ∀ tier, ¬ model.Applies tier := by
  simp only [identifiers?_eq, List.findSome?_eq_none_iff, offer?_eq_none, Tier.mem_all,
    forall_const]

theorem identifiers?_ne_nil : model.identifiers? ≠ some [] := by
  intro identified
  obtain ⟨earlier, tier, later, -, offers, -⟩ := identifiers?_eq_some.1 identified
  exact offers.ne_nil rfl

theorem identifiers_eq_ok :
    model.identifiers = .ok identifiers ↔ model.identifiers? = some identifiers := by
  rw [Model.identifiers]
  cases model.identifiers? <;> simp

theorem identifiers_eq_error {error : GenerationError} :
    model.identifiers = .error error ↔
      error = .noIdentifier model.name ∧ model.identifiers? = none := by
  rw [identifiers]
  cases model.identifiers? <;> simp [eq_comm]

/-- Tiers that offer the same up to one that applies give the same identity. -/
theorem identifiers?_congr {other : Model} {earlier later : List Tier}
    (split : Tier.all = earlier ++ tier :: later) (applies : model.Applies tier)
    (agree : ∀ shared ∈ earlier ++ [tier], ∀ identifiers,
      model.Offers identifiers shared ↔ other.Offers identifiers shared) :
    other.identifiers? = model.identifiers? := by
  have front (asked : Model) : asked.identifiers? =
      (((earlier ++ [tier]).map asked.offer?).findSome? id).or (later.findSome? asked.offer?) := by
    rw [identifiers?_eq, split, List.append_cons, List.findSome?_append, List.findSome?_map]
    rfl
  have same : (earlier ++ [tier]).map other.offer? = (earlier ++ [tier]).map model.offer? := by
    refine List.map_congr_left fun shared member => Option.ext fun identifiers => ?_
    rw [offer?_eq_some, offer?_eq_some, agree shared member]
  have decided : (((earlier ++ [tier]).map model.offer?).findSome? id).isSome = true := by
    obtain ⟨identifiers, offers⟩ := applies
    rw [List.findSome?_isSome_iff]
    exact ⟨_, List.mem_map_of_mem (by simp), Option.isSome_iff_exists.2
      ⟨identifiers, offer?_eq_some.2 offers⟩⟩
  rw [front other, front model, same, Option.or_of_isSome decided, Option.or_of_isSome decided]

end Model

/-- The identity is what the first tier that applies offers, it is never without fields, and there
is none if and only if no tier applies.  Models of which the tiers offer the same, up to one that
applies, have the same identity. -/
theorem identity_of_first_tier (model : Model) :
    (∀ identifiers, model.identifiers = .ok identifiers ↔
      ∃ earlier tier later, Tier.all = earlier ++ tier :: later ∧
        model.Offers identifiers tier ∧ ∀ other ∈ earlier, ¬ model.Applies other) ∧
    (∀ error, model.identifiers = .error error ↔
      error = .noIdentifier model.name ∧ ∀ tier, ¬ model.Applies tier) ∧
    (∀ identifiers, model.identifiers = .ok identifiers → identifiers ≠ []) ∧
    ∀ (other : Model) (earlier : List Tier) (tier : Tier) (later : List Tier),
      Tier.all = earlier ++ tier :: later → model.Applies tier →
      (∀ shared ∈ earlier ++ [tier], ∀ identifiers,
        model.Offers identifiers shared ↔ other.Offers identifiers shared) →
      other.identifiers = model.identifiers := by
  refine ⟨fun identifiers => ?_, fun error => ?_, ?_, ?_⟩
  · rw [Model.identifiers_eq_ok, Model.identifiers?_eq_some]
  · rw [Model.identifiers_eq_error, Model.identifiers?_eq_none]
  · rintro identifiers identified rfl
    exact Model.identifiers?_ne_nil (Model.identifiers_eq_ok.1 identified)
  · intro other earlier tier later split applies agree
    have same := Model.identifiers?_congr split applies agree
    cases decided : model.identifiers? with
    | some identifiers =>
        rw [Model.identifiers_eq_ok.2 decided, Model.identifiers_eq_ok.2 (same.trans decided)]
    | none => exact absurd applies (Model.identifiers?_eq_none.1 decided tier)

/-- Two identifier fields, a primary key and a group without fields. -/
def enrolment : Model where
  name := "Enrolment"
  fields :=
    [{ name := "student", kind := .scalar, type := "Int", isId := true },
      { name := "course", kind := .scalar, type := "Int", isId := true },
      { name := "seat", kind := .scalar, type := "Int", isUnique := true }]
  primaryKey := some {}
  uniqueFields := [[], ["student", "course"]]

theorem identity_of_first_tier_enrolment :
    enrolment.identifiers = .ok ["seat"] ∧
      { enrolment with uniqueFields := [["course"]], uniqueIndexes := [{}] }.identifiers =
        .ok ["seat"] := by
  obtain ⟨found, -, -, decides⟩ := identity_of_first_tier enrolment
  have split : Tier.all = [.identifierField, .primaryKey, .idFields] ++
      .uniqueField :: [.uniqueGroup, .uniqueIndex] := rfl
  have offers : enrolment.Offers ["seat"] .uniqueField :=
    Model.offer?_eq_some.1 (by decide +kernel)
  have none : ∀ other ∈ [Tier.identifierField, .primaryKey, .idFields],
      ¬ enrolment.Applies other := by
    simp only [← Model.offer?_eq_none]
    decide +kernel
  have identified := (found ["seat"]).2 ⟨_, _, _, split, offers, none⟩
  refine ⟨identified, (decides _ _ _ _ split ⟨_, offers⟩ ?_).trans identified⟩
  simp only [List.cons_append, List.nil_append, List.forall_mem_cons]
  exact ⟨fun _ => Iff.rfl, fun _ => Iff.rfl, fun _ => Iff.rfl, fun _ => Iff.rfl,
    List.forall_mem_nil _⟩

end GraphBinding
