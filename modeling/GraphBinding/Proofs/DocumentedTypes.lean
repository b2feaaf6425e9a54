import GraphBinding.Proofs.Objects
import GraphBinding.Proofs.Undocumented

namespace GraphBinding

/-! Types that differ in their documentation.

An object keeps its description in one table with its fields.  A field that is called as the key
of the description takes its place, and stands elsewhere where there was no description.  All
other entries have their order from the document.  So an object is seen here as these entries
and that field.
-/

namespace Entries

variable {α β : Type} (change : α → β) (entries : Entries α) (name : String) (value : α)

/-- The values changed, each in its place. -/
def mapped : Entries β := entries.map fun entry => (entry.1, change entry.2)

theorem keys_mapped : keys (mapped change entries) = keys entries := List.map_map ..

theorem find?_mapped : find? (mapped change entries) name = (find? entries name).map change := by
  induction entries with
  | nil => rfl
  | cons entry rest ih =>
      obtain ⟨key, old⟩ := entry
      change find? ((key, change old) :: mapped change rest) name = _
      rw [find?_cons, find?_cons, ih]
      split <;> rfl

theorem mapped_insert :
    mapped change (insert entries name value) =
      insert (mapped change entries) name (change value) := by
  induction entries with
  | nil => rfl
  | cons entry rest ih =>
      obtain ⟨key, old⟩ := entry
      change _ = insert ((key, change old) :: mapped change rest) name (change value)
      rw [insert, insert, ← ih]
      split <;> rfl

theorem mapped_collapse :
    mapped change (collapse entries) = collapse (mapped change entries) := by
  have written : ∀ sofar : Entries α,
      mapped change (entries.foldl (fun written entry => insert written entry.1 entry.2) sofar) =
        (mapped change entries).foldl (fun written entry => insert written entry.1 entry.2)
          (mapped change sofar) := by
    induction entries with
    | nil => exact fun _ => rfl
    | cons entry rest ih =>
        intro sofar
        rw [List.foldl_cons, ih, mapped_insert]
        rfl
  exact written []

theorem erase_insert (other : String) :
    erase (insert entries name value) other =
      if name = other then erase entries other else insert (erase entries other) name value := by
  induction entries with
  | nil => simp only [insert, erase]
  | cons entry rest ih =>
      obtain ⟨key, old⟩ := entry
      by_cases same : key = name
      · subst same
        by_cases asked : key = other
        · simp [insert, erase, asked]
        · simp [insert, erase, asked]
      · by_cases asked : key = other
        · subst asked
          simp [insert, erase, same, Ne.symm same]
        · rw [insert, if_neg same, erase, if_neg asked, erase, if_neg asked, ih]
          split
          · rfl
          · rw [insert, if_neg same]

end Entries

namespace Table

variable {α β : Type}

def mapped (change : α → β) (table : Table α) : Table β :=
  ⟨table.entries.mapped change, by
    rw [← Entries.keys, Entries.keys_mapped]
    exact table.distinct⟩

theorem mapped_insert (change : α → β) (table : Table α) (name : String) (value : α) :
    (table.insert name value).mapped change = (table.mapped change).insert name (change value) :=
  ext (Entries.mapped_insert change table.entries name value)

theorem mapped_ofEntries (change : α → β) (entries : Entries α) :
    (ofEntries entries).mapped change = ofEntries (entries.mapped change) :=
  ext (Entries.mapped_collapse change entries)

theorem find?_mapped (change : α → β) (table : Table α) (name : String) :
    (table.mapped change).find? name = (table.find? name).map change :=
  Entries.find?_mapped change table.entries name

theorem values_mapped (change : α → β) (table : Table α) :
    (table.mapped change).values = table.values.map change := by
  simp only [values, Entries.values, mapped, Entries.mapped, List.map_map, Function.comp_def]

theorem erase_insert (table : Table α) (name : String) (value : α) (other : String) :
    (table.insert name value).erase other =
      if name = other then table.erase other else (table.erase other).insert name value := by
  apply ext
  change Entries.erase (Entries.insert _ _ _) _ = _
  rw [Entries.erase_insert]
  split <;> rfl

end Table

namespace OutputField

def undocumented (field : OutputField) : OutputField :=
  { field with description := none, documentation := none }

/-- Without what the document says about the field, and with its description. -/
def uncommented (field : OutputField) : OutputField := { field with documentation := none }

end OutputField

namespace ObjectEntry

def undocumented : ObjectEntry → ObjectEntry
  | .field definition => .field definition.undocumented
  | entry => entry

def uncommented : ObjectEntry → ObjectEntry
  | .field definition => .field definition.uncommented
  | entry => entry

theorem field?_undocumented (entry : ObjectEntry) :
    entry.undocumented.field? = entry.field?.map OutputField.undocumented := by
  cases entry <;> rfl

end ObjectEntry

/-- What an object is without documentation. -/
structure ObjectSkeleton where
  kind : ObjectKind
  /-- All entries but that under the key of the description. -/
  entries : Table ObjectEntry
  /-- The field under the key of the description. -/
  described : Option OutputField

namespace ObjectSkeleton

def add (skeleton : ObjectSkeleton) (field : OutputField) : ObjectSkeleton :=
  if field.name = descriptionKey then { skeleton with described := some field }
  else { skeleton with entries := skeleton.entries.insert field.name (.field field) }

def field? (skeleton : ObjectSkeleton) (name : String) : Option OutputField :=
  if name = descriptionKey then skeleton.described
  else (skeleton.entries.find? name).bind ObjectEntry.field?

end ObjectSkeleton

namespace ObjectType

def skeleton (type : ObjectType) : ObjectSkeleton where
  kind := type.kind
  entries := (type.entries.mapped ObjectEntry.undocumented).erase descriptionKey
  described := (type.field? descriptionKey).map OutputField.undocumented

def uncommented (type : ObjectType) : ObjectType where
  kind := type.kind
  entries := type.entries.mapped ObjectEntry.uncommented

theorem field?_skeleton (type : ObjectType) (name : String) :
    type.skeleton.field? name = (type.field? name).map OutputField.undocumented := by
  rw [ObjectSkeleton.field?]
  split
  · rename_i same
    rw [same]
    rfl
  · rename_i other
    rw [skeleton, Table.find?_erase, if_neg (Ne.symm other), Table.find?_mapped, field?]
    cases type.entries.find? name with
    | none => rfl
    | some entry => exact entry.field?_undocumented

theorem skeleton_new (kind : ObjectKind) (name : String) (description : Option String) :
    (new kind name description).skeleton = (new kind name none).skeleton := by
  cases description <;> rfl

theorem skeleton_addField (type : ObjectType) (field : OutputField) :
    (type.addField field).skeleton = type.skeleton.add field.undocumented := by
  have name : field.undocumented.name = field.name := rfl
  rw [skeleton, field?_addField, addField, Table.mapped_insert, Table.erase_insert,
    ObjectSkeleton.add, name]
  split <;> rfl

theorem skeleton_addFields (type : ObjectType) (fields : List OutputField) :
    (type.addFields fields).skeleton =
      (fields.map OutputField.undocumented).foldl ObjectSkeleton.add type.skeleton := by
  induction fields generalizing type with
  | nil => rfl
  | cons field rest ih =>
      change ((type.addField field).addFields rest).skeleton = _
      rw [ih, skeleton_addField]
      rfl

theorem uncommented_addFields (type : ObjectType) (fields : List OutputField) :
    (type.addFields fields).uncommented =
      type.uncommented.addFields (fields.map OutputField.uncommented) := by
  induction fields generalizing type with
  | nil => rfl
  | cons field rest ih =>
      have first : (type.addField field).uncommented =
          type.uncommented.addField field.uncommented := by
        rw [uncommented, addField, Table.mapped_insert]
        rfl
      change ((type.addField field).addFields rest).uncommented = _
      rw [ih, first]
      rfl

end ObjectType

theorem mapM_map_ok {α β γ ε : Type} (step : α → Except ε β) (change : β → γ) (items : List α) :
    (items.mapM fun item => (step item).map change) = (items.mapM step).map (List.map change) := by
  induction items with
  | nil => rfl
  | cons item rest ih =>
      rw [List.mapM_cons, List.mapM_cons, ih]
      cases step item with
      | error reason => rfl
      | ok value => cases rest.mapM step <;> rfl

namespace Projection

variable {settings : Settings}

theorem descriptionOf_none (settings : Settings) : descriptionOf settings none = none := by
  unfold descriptionOf
  split <;> rfl

theorem descriptionOf_silent (silent : settings.docPropagation.descriptions = false)
    (documentation : Option String) : descriptionOf settings documentation = none := by
  rw [descriptionOf, silent]
  rfl

theorem outputField_undocumented (model : Model) (field : Field) :
    outputField settings model.undocumented field.undocumented =
      (outputField settings model field).map OutputField.undocumented := by
  have type : field.undocumented.typeRef model.undocumented settings.idProjection =
      field.typeRef model settings.idProjection := rfl
  have description : descriptionOf settings field.undocumented.documentation = none :=
    descriptionOf_none settings
  have relation : field.undocumented.isRelation = field.isRelation := rfl
  have list : field.undocumented.isList = field.isList := rfl
  rw [outputField, outputField, type, description, relation, list]
  dsimp only
  split
  · rfl
  · cases field.typeRef model settings.idProjection <;> rfl

/-- Where documentation becomes no description, it is in comments only. -/
theorem uncommented_outputField (silent : settings.docPropagation.descriptions = false)
    {model : Model} {field : Field} {output : OutputField}
    (made : outputField settings model field = .ok output) :
    output.uncommented = output.undocumented := by
  rw [outputField, descriptionOf_silent silent] at made
  dsimp only at made
  split at made
  · cases made
    rfl
  · cases typed : field.typeRef model settings.idProjection with
    | error reason =>
        rw [typed] at made
        cases made
    | ok type =>
        rw [typed] at made
        cases made
        rfl

theorem outputFields_undocumented (model : Model) :
    model.undocumented.fields.mapM (outputField settings model.undocumented) =
      (model.fields.mapM (outputField settings model)).map
        (List.map OutputField.undocumented) := by
  rw [Model.undocumented, List.mapM_map, ← mapM_map_ok]
  exact congrArg (model.fields.mapM ·) (funext fun field => outputField_undocumented model field)

/-- Of an object documentation changes no more than what its skeleton leaves out. -/
theorem skeleton_modelObject (model : Model) :
    (modelObject settings model.undocumented).map ObjectType.skeleton =
      (modelObject settings model).map ObjectType.skeleton := by
  rw [modelObject, outputFields_undocumented, modelObject]
  cases model.fields.mapM (outputField settings model) with
  | error reason => rfl
  | ok fields =>
      have once : (fields.map OutputField.undocumented).map OutputField.undocumented =
          fields.map OutputField.undocumented := List.map_map ..
      have start : ∀ description documentation,
          ({ ObjectType.new .model model.name description with documentation } :
            ObjectType).skeleton = (ObjectType.new .model model.name none).skeleton :=
        fun description _ => ObjectType.skeleton_new .model model.name description
      apply congrArg Except.ok
      rw [ObjectType.skeleton_addFields, ObjectType.skeleton_addFields, once]
      exact congrArg (List.foldl ObjectSkeleton.add · (fields.map OutputField.undocumented))
        ((start _ _).trans (start _ _).symm)

/-- Where documentation becomes no description, nothing but comments are lost without it. -/
theorem uncommented_modelObject (silent : settings.docPropagation.descriptions = false)
    (model : Model) :
    modelObject settings model.undocumented =
      (modelObject settings model).map ObjectType.uncommented := by
  rw [modelObject, outputFields_undocumented, modelObject, descriptionOf_silent silent,
    descriptionOf_silent silent]
  cases made : model.fields.mapM (outputField settings model) with
  | error reason => rfl
  | ok fields =>
      have outputs : fields.map OutputField.undocumented = fields.map OutputField.uncommented := by
        refine List.map_congr_left fun output member => ?_
        obtain ⟨field, -, ofField⟩ := exists_of_mem_mapM made member
        exact (uncommented_outputField silent ofField).symm
      apply congrArg Except.ok
      rw [ObjectType.uncommented_addFields, ← outputs]
      rfl

end Projection

end GraphBinding
