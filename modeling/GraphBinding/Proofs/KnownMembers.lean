import GraphBinding.Document.Decoder
import GraphBinding.Proofs.OverlookedSteps
import Mathlib.Logic.Relation

namespace GraphBinding

open Decoder Record.Overlooks

/-! Documents whose objects have their members in another order, or more of them.

Every object that stands for a part of a document may change, at any depth.  A step of a part is
one of its record, and what stands in its columns takes steps of its own. -/

/-- Nothing in the columns takes a step. -/
def Flat : String → Json → Json → Prop := fun _ _ _ => False

namespace Field

def Step : Json → Json → Prop := record.Step Flat

theorem record_overlooks : record.Overlooks Flat :=
  seq (seq (seq (seq (seq (seq (seq (seq (seq (seq (seq (seq (seq (map _
    (required .nothing)) (required .nothing)) (required .nothing)) (optional .nothing))
    (optional .nothing)) (optional .nothing)) (optional .nothing)) (optional .nothing))
    (optional .nothing)) (optional .nothing)) (optional .nothing)) (optional .nothing))
    (optional .nothing)) (optional .nothing)

theorem decode_overlooks : decode.Overlooks Step :=
  record_overlooks.decoder (by decide) .tree "Field"

end Field

namespace KeyGroup

def Step : Json → Json → Prop := record.Step Flat

theorem record_overlooks : record.Overlooks Flat :=
  seq (map _ (optional .nothing)) (optional .nothing)

theorem decoder_overlooks (shape : String) : (record.decoder .tree shape).Overlooks Step :=
  record_overlooks.decoder (by decide) .tree shape

end KeyGroup

namespace Model

def Inside : String → Json → Json → Prop
  | "fields" => ItemStep Field.Step
  | "primaryKey" => KeyGroup.Step
  | "uniqueIndexes" => ItemStep KeyGroup.Step
  | _ => fun _ _ => False

def Step : Json → Json → Prop := record.Step Inside

theorem record_overlooks : record.Overlooks Inside :=
  have fields : (list Field.decode).Overlooks (Inside "fields") := Field.decode_overlooks.list
  have primaryKey : (nullable (KeyGroup.record.decoder .tree "PrimaryKey")).Overlooks
      (Inside "primaryKey") :=
    (KeyGroup.decoder_overlooks "PrimaryKey").nullable fun _ _ => Record.Step.ne_null
  have uniqueIndexes : (list (KeyGroup.record.decoder .tree "UniqueIndex")).Overlooks
      (Inside "uniqueIndexes") :=
    (KeyGroup.decoder_overlooks "UniqueIndex").list
  seq (seq (seq (seq (seq (seq (seq (map _
    (required .nothing)) (optional .nothing)) (optional fields)) (optional .nothing))
    (optional primaryKey)) (optional .nothing)) (optional .nothing)) (optional uniqueIndexes)

theorem decode_overlooks : decode.Overlooks Step :=
  record_overlooks.decoder (by decide) .tree "Model"

end Model

namespace EnumValue

def Step : Json → Json → Prop := record.Step Flat

theorem record_overlooks : record.Overlooks Flat :=
  seq (map _ (required .nothing)) (optional .nothing)

theorem decode_object_eq_ok {members : List (String × Json)} {decoded : EnumValue} :
    decode (.object members) = .ok decoded ↔ record.ofMembers members = .ok decoded := by
  cases made : record.ofMembers members with
  | error reason => simp [decode, made]
  | ok value => simp [decode, made]

theorem decode_overlooks : decode.Overlooks Step := by
  intro json changed decoded step done
  cases step with
  | permuted order =>
      rw [decode_object_eq_ok] at done ⊢
      exact record_overlooks.ofMembers (.permuted order) done
  | added json undeclared =>
      rw [decode_object_eq_ok] at done ⊢
      exact record_overlooks.ofMembers (.added json undeclared) done
  | member impossible => exact impossible.elim
  | item _ impossible => exact impossible.elim

end EnumValue

namespace Enum

def Inside : String → Json → Json → Prop
  | "values" => ItemStep EnumValue.Step
  | _ => fun _ _ => False

def Step : Json → Json → Prop := record.Step Inside

theorem record_overlooks : record.Overlooks Inside :=
  have values : (list EnumValue.decode).Overlooks (Inside "values") :=
    EnumValue.decode_overlooks.list
  seq (seq (map _ (required .nothing)) (optional values)) (optional .nothing)

theorem decode_overlooks : decode.Overlooks Step :=
  record_overlooks.decoder (by decide) .tree "Enum"

end Enum

theorem Envelope.build_record (find : String → Option Json) :
    record.build find = (find "datamodel").elim (.error (.missingField "datamodel"))
      fun json => (Document.decodeBare json).map Envelope.mk := by
  rw [record, Record.map_build, Record.build_required]
  cases find "datamodel" <;> rfl

namespace Document

def Inside : String → Json → Json → Prop
  | "models" => ItemStep Model.Step
  | "enums" => ItemStep Enum.Step
  | _ => fun _ _ => False

theorem record_overlooks : record.Overlooks Inside :=
  have models : (list Model.decode).Overlooks (Inside "models") := Model.decode_overlooks.list
  have enums : (list Enum.decode).Overlooks (Inside "enums") := Enum.decode_overlooks.list
  seq (map _ (optional models)) (optional enums)

theorem decodeBare_overlooks : decodeBare.Overlooks (record.Step Inside) :=
  record_overlooks.decoder (by decide) .tree "Document"

/-- A step of a document that stands alone, and still does, or of the one in an envelope, whatever
else the envelope holds. -/
inductive Step : Json → Json → Prop
  | bare {json changed : Json} (alone : json.get? "datamodel" = none)
      (still : changed.get? "datamodel" = none) (step : record.Step Inside json changed) :
      Step json changed
  | enveloped {members others : List (String × Json)} {json changed : Json}
      (holds : Entries.find? members "datamodel" = some json)
      (still : Entries.find? others "datamodel" = some changed)
      (step : record.Step Inside json changed) : Step (.object members) (.object others)

theorem decode_bare {json : Json} (alone : json.get? "datamodel" = none) :
    decode json = decodeBare json := by
  simp only [decode, alone]

theorem decode_enveloped {members : List (String × Json)} {json : Json}
    (holds : Entries.find? members "datamodel" = some json) :
    decode (.object members) = decodeBare json := by
  have asked : (Json.object members).get? "datamodel" = some json := holds
  simp only [decode, asked, Envelope.build_record, Option.elim_some]
  cases decodeBare json <;> rfl

theorem decode_overlooks : decode.Overlooks Step := by
  intro json changed decoded step done
  cases step with
  | bare alone still step =>
      rw [decode_bare alone] at done
      rw [decode_bare still]
      exact decodeBare_overlooks _ _ _ step done
  | enveloped holds still step =>
      rw [decode_enveloped holds] at done
      rw [decode_enveloped still]
      exact decodeBare_overlooks _ _ _ step done

end Document

/-- A value that is accepted as a document is accepted as the same document after any number of
steps.  A value that is no envelope is decoded in any envelope as it is alone, also if it is
refused. -/
theorem known_members_make_the_document (json : Json) :
    (∀ changed document, Relation.ReflTransGen Document.Step json changed →
      Document.decode json = .ok document → Document.decode changed = .ok document) ∧
    (json.get? "datamodel" = none → ∀ members,
      Entries.find? members "datamodel" = some json →
        Document.decode (.object members) = Document.decode json) := by
  constructor
  · intro changed document steps done
    induction steps with
    | refl => exact done
    | tail _ step ih => exact Document.decode_overlooks _ _ _ step ih
  · intro alone members holds
    rw [Document.decode_enveloped holds, Document.decode_bare alone]

/-- A field as it is written by hand; a schema processor adds a member without a column. -/
def idMembers : List (String × Json) :=
  [("name", .string "id"), ("kind", .string "scalar"), ("type", .string "Int")]

def idMembersEmitted : List (String × Json) := idMembers ++ [("isGenerated", .boolean false)]

def userMembers (field : List (String × Json)) : List (String × Json) :=
  [("models", .array [.object [("name", .string "User"), ("fields", .array [.object field])]]),
    ("enums", .array [])]

theorem known_members_make_the_document_emitted :
    let written := Json.object (userMembers idMembers)
    let emitted := Json.object (userMembers idMembersEmitted).reverse
    let id : Field := { name := "id", kind := .scalar, type := "Int" }
    let document : Document := { models := [{ name := "User", fields := [id] }] }
    Relation.ReflTransGen Document.Step written emitted ∧
      Document.decode written = .ok document ∧ Document.decode emitted = .ok document ∧
      Document.decode (.object [("schema", .null), ("datamodel", emitted)]) = .ok document := by
  intro written emitted id document
  have field : Field.Step (.object idMembers) (.object idMembersEmitted) :=
    @Record.Step.added _ _ _ idMembers [] _ _ (by decide)
  have model : Model.Step
      (.object [("name", .string "User"), ("fields", .array [.object idMembers])])
      (.object [("name", .string "User"), ("fields", .array [.object idMembersEmitted])]) :=
    @Record.Step.member _ _ _ [("name", .string "User")] [] "fields" _ _
      (@ItemStep.item _ [] [] _ _ field)
  have added : Document.Step written (.object (userMembers idMembersEmitted)) :=
    .bare rfl rfl (@Record.Step.member _ _ _ [] _ "models" _ _ (@ItemStep.item _ [] [] _ _ model))
  have permuted : Document.Step (.object (userMembers idMembersEmitted)) emitted :=
    .bare rfl rfl (.permuted (List.reverse_perm _).symm)
  have steps := (Relation.ReflTransGen.single added).tail permuted
  have decoded : Document.decode written = .ok document := rfl
  have alike := (known_members_make_the_document written).1 emitted document steps decoded
  have envelope := (known_members_make_the_document emitted).2 rfl
    [("schema", .null), ("datamodel", emitted)] rfl
  exact ⟨steps, decoded, alike, envelope.trans alike⟩

end GraphBinding
