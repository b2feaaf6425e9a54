import GraphBinding.Proofs.Generation
import GraphBinding.Proofs.Session
import GraphBinding.Proofs.TypeNames

namespace GraphBinding

/-! Making everything a second time.

Renaming fields takes no name of a type away.  So when a document is projected again, every
request finds its name taken, and neither the catalog nor the aliases nor the identifiers
change. -/

namespace Catalog

variable {catalog : Catalog}

/-- A request finds its answer under the name of that answer. -/
theorem Request.fulfill_of_present {request : Request} (noMode : request ≠ .queryMode)
    (present : ∀ name, request.name? = some name → name ∈ catalog.inputs.keys) :
    request.fulfill catalog = catalog := by
  cases made : request.finished? with
  | some type =>
      obtain ⟨former, found⟩ := find?_of_mem_keys (present _ (Request.name?_finished made))
      rw [Request.fulfill_finished made, obtain_of_find? _ found]
  | none =>
      by_cases isText : ∃ native, request = .scalarFilter "String" native
      · obtain ⟨native, rfl⟩ := isText
        obtain ⟨former, found⟩ := find?_of_mem_keys (present "StringFilter" rfl)
        rw [Request.fulfill_text, obtain_of_find? _ found]
      · exact Request.fulfill_idle made (fun native same => isText ⟨native, same⟩) noMode catalog

theorem foldl_fulfill_idle {requests : List Request}
    (idle : ∀ request ∈ requests, request.fulfill catalog = catalog) :
    requests.foldl Request.fulfill catalog = catalog := by
  induction requests with
  | nil => rfl
  | cons request rest ih =>
      rw [List.foldl_cons, idle request (by simp)]
      exact ih fun other member => idle other (by simp [member])

end Catalog

namespace Projection

open Drafting

variable {document : Document} {settings : Settings} {model : Model} {draft : Draft}

theorem outcome_identify_again {identifiers : List String}
    (identified : model.identifiers? = some identifiers)
    (known : draft.identifiers.find? model.name = some identifiers) :
    outcome (identify model) draft = (.ok ⟨⟩, draft) := by
  have answer : model.identifiers = .ok identifiers := by
    simp only [Model.identifiers, identified]
  have same : draft.identifiers.insert model.name identifiers = draft.identifiers :=
    Table.ext (Entries.insert_of_find? known)
  have written : outcome (identify model) draft =
      (.ok ⟨⟩, { draft with identifiers := draft.identifiers.insert model.name identifiers }) := by
    rw [identify, answer]
    rfl
  rw [written, same]

theorem outcome_defineInputs_again (supported : model.unsupportedField? = none)
    (written : draft.identifiers.find? model.name = some (model.identifiers?.getD []))
    (identifying : model.missingIdentifier? (model.identifiers?.getD []) = none)
    (named : draft.catalog.Named)
    (idle : ∀ request ∈ model.requests draft.settings.idProjection,
      request.fulfill draft.catalog = draft.catalog) :
    outcome (defineInputs model) draft = (.ok ⟨⟩, draft) := by
  have accepted : refused? (defineInputs model) draft = none := by
    rw [refused?_defineInputs supported named, written, Option.getD_some, identifying]
  have done := refused?_eq_none accepted
  have after := outcome_defineInputs written named done
  rw [Draft.fulfill, Catalog.foldl_fulfill_idle idle] at after
  rw [done, after]

theorem outcome_assemble_again {graph : TypeGraph} {before after : Draft}
    (assembled : outcome assemble before = (.ok graph, after))
    (sameDocument : draft.document = before.document)
    (sameSettings : draft.settings = before.settings)
    (identities : ∀ model ∈ draft.document.models,
      outcome (identify model) draft = (.ok ⟨⟩, draft))
    (inputs : ∀ model ∈ draft.document.models,
      outcome (defineInputs model) draft = (.ok ⟨⟩, draft)) :
    outcome assemble draft = (.ok graph, draft) := by
  obtain ⟨objects, identified, made, queried, models, pages, enums, -, -⟩ := assemble_ok assembled
  rw [← sameDocument, ← sameSettings] at made
  rw [← sameDocument] at queried models pages
  rw [← sameDocument, ← sameSettings] at enums
  rw [assemble, outcome_bind_of_ok _ (outcome_get draft)]
  dsimp only
  rw [outcome_bind_of_ok _ (outcome_forM_idle identities), made,
    outcome_bind_of_ok _ (outcome_ofExcept _ draft),
    outcome_bind_of_ok _ (outcome_forM_idle inputs), queried,
    outcome_bind_of_ok _ (outcome_ofExcept _ draft), ← models, ← pages, ← enums]
  rfl

end Projection

section Sessions

open Projection

variable {document : Document} {settings : Settings} {graph : TypeGraph} {first draft : Draft}

theorem Projection.assembled_again
    (assembled : Drafting.outcome assemble { document, settings } = (.ok graph, first))
    (accepted : document.Accepted settings) (renames : first.Renames draft) :
    Drafting.outcome assemble draft = (.ok graph, draft) := by
  have serves := serves_of_assembled assembled
  obtain ⟨named, keys⟩ := renames.named serves.stems.named
  have identifiers : draft.identifiers = document.identifiers := by
    rw [renames.others, draft_of_assembled assembled]
    rfl
  have kept : draft.document = document ∧ draft.settings = settings := by
    rw [renames.others, draft_of_assembled assembled]
    exact ⟨rfl, rfl⟩
  have known {model : Model} (member : model ∈ draft.document.models) :
      draft.identifiers.find? model.name = some (model.identifiers?.getD []) := by
    rw [identifiers]
    exact Document.find?_identifiers serves.distinct (kept.1 ▸ member)
  refine outcome_assemble_again assembled kept.1 kept.2 (fun model member => ?_)
    fun model member => ?_
  · obtain ⟨found, identified⟩ :=
      Option.ne_none_iff_exists'.1 (accepted.identified model (kept.1 ▸ member))
    refine outcome_identify_again identified ?_
    rw [known member, identified, Option.getD_some]
  · have ofDocument : model ∈ document.models := kept.1 ▸ member
    refine outcome_defineInputs_again
      (Model.unsupportedField?_eq_none.2 (accepted.supported model ofDocument)) (known member)
      (Model.missingIdentifier?_eq_none.2 (accepted.identifying model ofDocument)) named
      fun request asked => ?_
    rw [kept.2] at asked
    have requested : request ∈ document.requests settings.idProjection :=
      List.mem_flatMap.2 ⟨model, ofDocument, asked⟩
    refine Catalog.Request.fulfill_of_present ?_ fun name answered =>
      keys ▸ serves.present requested answered
    rintro rfl
    exact Document.not_asks_queryMode (Document.mem_requests.1 requested)

/-- Without declared aliases a projection that succeeded can be repeated after any aliases,
refused ones among them: it gives the same graph and leaves the draft as it is. -/
theorem project_again (unaliased : ∀ entry ∈ settings.fieldAliases.entries, entry.2.entries = [])
    (projected : Draft.project { document, settings } = (.ok graph, first))
    (renamings : List (String × String × String)) :
    Draft.project (first.aliasAll renamings) = (.ok graph, first.aliasAll renamings) := by
  obtain ⟨middle, assembled, declared⟩ := Draft.assembled_of_projected projected
  rw [outcome_declareAliases_none unaliased] at declared
  cases declared
  have accepted : document.Accepted settings := by
    have generated : Schema.generate document settings = .ok (first.finish graph) := by
      unfold Schema.generate
      rw [projected]
    exact accepted_of_generate generated
  have renames := first.renames_aliasAll renamings
  have settled : (first.aliasAll renamings).settings = settings := by
    rw [renames.others, draft_of_assembled assembled]
    rfl
  change Drafting.outcome Projection.project _ = _
  rw [outcome_project, assembled_again assembled accepted renames]
  dsimp only
  rw [settled, outcome_declareAliases_none unaliased]

/-- Two fields take each other's names, and one is refused a name that is taken. -/
def swappedNames : List (String × String × String) :=
  [("UserWhereInput", "name", "kept"), ("UserWhereInput", "age", "name"),
    ("UserWhereInput", "id", "name"), ("UserWhereInput", "kept", "age")]

theorem project_again_after_swap :
    ∃ graph first, Draft.project { document := people, settings := {} } = (.ok graph, first) ∧
      ((first.aliasAll swappedNames).catalog.inputs.find? "UserWhereInput").map (·.fields.keys) =
        some ["AND", "OR", "NOT", "id", "age", "name"] ∧
      (first.aliasAll swappedNames).project = (.ok graph, first.aliasAll swappedNames) := by
  obtain ⟨graph, first, projected, swapped⟩ :
      ∃ graph first, Draft.project { document := people, settings := {} } = (.ok graph, first) ∧
        ((first.aliasAll swappedNames).catalog.inputs.find? "UserWhereInput").map
          (·.fields.keys) = some ["AND", "OR", "NOT", "id", "age", "name"] :=
    Draft.projected_of_check (by decide +kernel)
  exact ⟨graph, first, projected, swapped, project_again (by decide) projected swappedNames⟩

end Sessions

end GraphBinding
