import GraphBinding.Aliases
import GraphBinding.Catalog

namespace GraphBinding

/-! A schema under construction. -/

structure Draft where
  document : Document
  settings : Settings
  catalog : Catalog := {}
  aliases : Aliases := {}
  /-- The identifying fields of each model. -/
  identifiers : Table (List String) := Table.empty

/-- Construction that may fail.  What was drafted before a failure stays. -/
abbrev Drafting (α : Type) := ExceptT GenerationError (StateM Draft) α

namespace InputType

/-- Gives the field another name, in its place. -/
def renameField (type : InputType) (field exposed : String) : InputType :=
  { type with
    fields := Table.ofEntries (type.fields.entries.map fun (key, definition) =>
      if key = field then (exposed, { definition with name := exposed }) else (key, definition)) }

end InputType

namespace Draft

/-- Exposes a field of an input type under another name.  The name must not be that of
another field. -/
def aliasField (draft : Draft) (inputType field exposed : String) : Except GenerationError Draft :=
  match draft.catalog.inputs.find? inputType with
  | none => .error (.unknownInputType inputType)
  | some type =>
      if ¬ type.fields.contains field then .error (.unknownInputField inputType field)
      else if field ≠ exposed ∧ type.fields.contains exposed then
        .error (.aliasTaken inputType field exposed)
      else
        .ok { draft with
          catalog := draft.catalog.redefine inputType (type.renameField field exposed)
          aliases := draft.aliases.rename inputType field exposed }

end Draft

namespace Drafting

/-- Runs a change of the catalog that answers with something. -/
def withCatalog {α : Type} (request : Catalog → α × Catalog) : Drafting α :=
  modifyGet fun draft =>
    let (answer, catalog) := request draft.catalog
    (answer, { draft with catalog })

/-- As `Draft.aliasField`; a refused alias changes nothing. -/
def aliasField (inputType field exposed : String) : Drafting Unit := do
  let draft ← get
  let renamed ← ofExcept (draft.aliasField inputType field exposed)
  set renamed

end Drafting

end GraphBinding
