import GraphBinding.Document
import GraphBinding.GenerationError
import GraphBinding.ResolveError

namespace GraphBinding

/-! The fields that identify a record, and the clause that looks one record up by them. -/

namespace Model

/-- The fields of the compound primary key, or those of its older form. -/
def primaryKeyFields (model : Model) : List String :=
  match model.primaryKey with
  | some key => if key.fields.isEmpty then model.idFields else key.fields
  | none => model.idFields

/-- The first compound unique group with any fields, indexes last. -/
def uniqueGroup? (model : Model) : Option (List String) :=
  (model.uniqueFields ++ model.uniqueIndexes.map KeyGroup.fields).find? (!·.isEmpty)

/-- The identity of a model's records is the first of these that it has: its only
identifier field, its compound primary key, its first unique field, its first compound
unique group. -/
def identifiers? (model : Model) : Option (List String) :=
  match model.fields.filter (·.isId) with
  | [field] => some [field.name]
  | _ =>
      if ¬ model.primaryKeyFields.isEmpty then some model.primaryKeyFields
      else
        match model.fields.find? (·.isUnique) with
        | some field => some [field.name]
        | none => model.uniqueGroup?

def identifiers (model : Model) : Except GenerationError (List String) :=
  match model.identifiers? with
  | some fields => .ok fields
  | none => .error (.noIdentifier model.name)

end Model

/-- The name under which several identifiers stand together. -/
def compoundKeyName (identifiers : List String) : String := "_".intercalate identifiers

/-- The identifier values of a record, as members of an object. -/
def identifierValues (model : String) (record : Json) :
    List String → Except ResolveError (List (String × Json))
  | [] => .ok []
  | field :: rest =>
      match record.get? field with
      | some .null | none => .error (.missingIdentifier model field)
      | some value => (identifierValues model record rest).map ((field, value) :: ·)

/-- The clause that looks up a record by the identifier values it carries.  Several
identifiers stand together under their compound name. -/
def uniqueClause (model : String) (identifiers : List String) (record : Json) :
    Except ResolveError Json := do
  let values := Entries.collapse (← identifierValues model record identifiers)
  match identifiers with
  | _ :: _ :: _ => return .object [(compoundKeyName identifiers, .object values)]
  | _ => return .object values

end GraphBinding
