import GraphBinding.Proofs.CamelCase
import GraphBinding.Proofs.Objects

namespace GraphBinding

/-! The names of object types.

An object keeps its name in one table with its fields, under a key that the field of a model can
have for a name.  Such a field takes the place of the name.
-/

theorem Entries.findSome?_name {entries : Entries ObjectEntry} (distinct : entries.keys.Nodup)
    (only : ∀ entry ∈ entries, entry.1 ≠ nameKey → entry.2.name? = none) :
    entries.values.findSome? ObjectEntry.name? =
      (entries.find? nameKey).bind ObjectEntry.name? := by
  induction entries with
  | nil => rfl
  | cons entry rest ih =>
      obtain ⟨key, value⟩ := entry
      rw [keys_cons, List.nodup_cons] at distinct
      have onlyRest : ∀ entry ∈ rest, entry.1 ≠ nameKey → entry.2.name? = none :=
        fun entry member => only entry (List.mem_cons_of_mem _ member)
      rw [values, List.map_cons, List.findSome?_cons, find?_cons, ← values, ih distinct.2 onlyRest]
      by_cases same : key = nameKey
      · have absent : find? rest nameKey = none := (find?_eq_none _ _).2 (same ▸ distinct.1)
        rw [if_pos same, absent]
        cases named : value.name? <;> simp [named]
      · have unnamed : value.name? = none := only (key, value) List.mem_cons_self same
        rw [if_neg same, unnamed]

namespace ObjectType

variable {type : ObjectType} {fields : List OutputField}

/-- No name stands under another key than that for names. -/
def NamedByKey (type : ObjectType) : Prop :=
  ∀ entry ∈ type.entries.entries, entry.1 ≠ nameKey → entry.2.name? = none

theorem NamedByKey.name_eq (named : type.NamedByKey) :
    type.name = ((type.entries.find? nameKey).bind ObjectEntry.name?).getD "" :=
  congrArg (Option.getD · "") (Entries.findSome?_name type.entries.distinct named)

theorem namedByKey_new (kind : ObjectKind) (name : String) (description : Option String) :
    (new kind name description).NamedByKey := by
  cases description with
  | none =>
      intro entry member other
      rw [List.mem_singleton.1 member] at other
      exact absurd rfl other
  | some text =>
      intro entry member other
      rcases List.mem_pair.1 member with rfl | rfl
      · exact absurd rfl other
      · rfl

theorem NamedByKey.addFields (named : type.NamedByKey) (fields : List OutputField) :
    (type.addFields fields).NamedByKey := by
  induction fields generalizing type with
  | nil => exact named
  | cons field rest ih =>
      change ((type.addField field).addFields rest).NamedByKey
      refine ih fun entry member other => ?_
      rcases Entries.mem_of_mem_insert member with rfl | old
      · rfl
      · exact named entry old other

theorem find?_addFields_of_ne {key : String} (absent : ∀ field ∈ fields, field.name ≠ key) :
    (type.addFields fields).entries.find? key = type.entries.find? key := by
  induction fields generalizing type with
  | nil => rfl
  | cons field rest ih =>
      have others : ∀ other ∈ rest, other.name ≠ key :=
        fun other member => absent other (List.mem_cons_of_mem _ member)
      change ((type.addField field).addFields rest).entries.find? key = _
      rw [ih others, addField, Table.find?_insert, if_neg (absent field List.mem_cons_self)]

theorem find?_addFields_of_mem {key : String} (present : ∃ field ∈ fields, field.name = key) :
    ∃ shown, (type.addFields fields).entries.find? key = some (.field shown) := by
  induction fields generalizing type with
  | nil => simp at present
  | cons first rest ih =>
      change ∃ shown, ((type.addField first).addFields rest).entries.find? key = _
      by_cases again : ∃ other ∈ rest, other.name = key
      · exact ih again
      · have others : ∀ other ∈ rest, other.name ≠ key := by simpa using again
        obtain ⟨field, member, named⟩ := present
        rcases List.mem_cons.1 member with rfl | inRest
        · rw [find?_addFields_of_ne others, addField, Table.find?_insert, if_pos named]
          exact ⟨field, rfl⟩
        · exact absurd named (others field inRest)

theorem name_new (kind : ObjectKind) (name : String) (description : Option String) :
    (new kind name description).name = name := by
  cases description <;> rfl

/-- Fields leave the name alone, unless one of them is called as the key of the name. -/
theorem NamedByKey.name_addFields (named : type.NamedByKey) :
    (type.addFields fields).name =
      if ∃ field ∈ fields, field.name = nameKey then "" else type.name := by
  rw [(named.addFields fields).name_eq]
  split
  · rename_i taken
    obtain ⟨shown, found⟩ := @find?_addFields_of_mem type fields nameKey taken
    rw [found]
    rfl
  · rename_i free
    have others : ∀ field ∈ fields, field.name ≠ nameKey := by simpa using free
    rw [find?_addFields_of_ne others, named.name_eq]

theorem name_addFields_of_new {kind : ObjectKind} {name : String} {description : Option String}
    (unfilled : type.entries = (new kind name description).entries) :
    (type.addFields fields).name =
      if ∃ field ∈ fields, field.name = nameKey then "" else name := by
  have named : type.NamedByKey := by
    rw [NamedByKey, unfilled]
    exact namedByKey_new kind name description
  have first : type.name = name := by
    rw [ObjectType.name, unfilled]
    exact name_new kind name description
  rw [named.name_addFields, first]

end ObjectType

/-- The name of the object type that is made of a model. -/
def Model.objectName (model : Model) : String :=
  if ∃ field ∈ model.fields, field.name = nameKey then "" else model.name

theorem Model.objectName_eq {model : Model}
    (named : ∀ field ∈ model.fields, field.name = nameKey → model.name = "") :
    model.objectName = model.name := by
  unfold objectName
  split
  · rename_i taken
    obtain ⟨field, ofModel, isKey⟩ := taken
    exact (named field ofModel isKey).symm
  · rfl

namespace Projection

theorem name_outputField {settings : Settings} {model : Model} {field : Field}
    {output : OutputField} (made : outputField settings model field = .ok output) :
    output.name = field.name := by
  unfold outputField at made
  dsimp only at made
  split at made
  · cases made
    rfl
  · cases typed : field.typeRef model settings.idProjection with
    | error reason =>
        rw [typed] at made
        cases made
    | ok type =>
        rw [typed] at made
        cases made
        rfl

theorem names_outputFields {settings : Settings} {model : Model} {fields : List Field}
    {outputs : List OutputField} (made : fields.mapM (outputField settings model) = .ok outputs) :
    outputs.map OutputField.name = fields.map Field.name :=
  map_eq_of_forall₂ ((forall₂_of_mapM made).imp fun _ _ => name_outputField)

theorem name_modelObject {settings : Settings} {model : Model} {object : ObjectType}
    (made : modelObject settings model = .ok object) : object.name = model.objectName := by
  cases outputs : model.fields.mapM (outputField settings model) with
  | error reason =>
      rw [modelObject, outputs] at made
      cases made
  | ok fields =>
      rw [modelObject, outputs] at made
      cases made
      have taken : (∃ field ∈ fields, field.name = nameKey) ↔
          ∃ field ∈ model.fields, field.name = nameKey := by
        rw [← List.mem_map, ← List.mem_map, names_outputFields outputs]
      rw [Model.objectName, @ObjectType.name_addFields_of_new _ fields .model model.name
        (descriptionOf settings model.documentation)]
      · simp only [taken]
      · rfl

theorem name_listResult (model : String) : (listResult model).name = listResultName model := rfl

theorem findUniqueName_ne_nameKey (model : String) : findUniqueName model ≠ nameKey := by
  intro same
  have without := Text.dollar_not_mem_lowerCamel model
  rw [show Text.lowerCamel model = nameKey from same] at without
  exact absurd without (by decide)

theorem findManyName_ne_nameKey (model : String) : findManyName model ≠ nameKey := by
  intro same
  have within : '$' ∈ (Text.lowerCamel model ++ "s").toList := by
    rw [show Text.lowerCamel model ++ "s" = nameKey from same]
    decide
  rw [String.toList_append, List.mem_append] at within
  exact within.elim (Text.dollar_not_mem_lowerCamel model) (by decide)

theorem name_foldlM_addAccessors {models : List String} {before query : ObjectType}
    (named : before.NamedByKey) (queried : models.foldlM addAccessors before = .ok query) :
    query.name = before.name := by
  induction models generalizing before with
  | nil =>
      cases queried
      rfl
  | cons model rest ih =>
      obtain ⟨middle, added, queried⟩ := exists_of_foldlM_cons queried
      unfold addAccessors at added
      split at added
      · cases added
      · cases added
        have noKey : ¬ ∃ field ∈ [findUniqueField model, findManyField model],
            field.name = nameKey := by
          rintro ⟨field, member, isKey⟩
          rcases List.mem_pair.1 member with rfl | rfl
          · exact findUniqueName_ne_nameKey model isKey
          · exact findManyName_ne_nameKey model isKey
        rw [ih (named.addFields _) queried, named.name_addFields, if_neg noKey]

theorem name_queryObject {models : List String} {query : ObjectType}
    (queried : queryObject models = .ok query) : query.name = queryType :=
  name_foldlM_addAccessors (ObjectType.namedByKey_new .query queryType none) queried

end Projection

end GraphBinding
