import GraphBinding.Projection
import GraphBinding.Proofs.Registration
import Mathlib.Control.Basic

namespace GraphBinding

/-! Runs of drafting steps.

`Drafting.outcome` is a run, with one equation for each way to make a step.  `Keeps` states
what holds of a run whether it succeeds or breaks off: making types only `Builds`, and
declaring aliases only `Renames`.
-/

namespace Drafting

variable {α β : Type}

/-- The answer of a step, and the draft that it leaves behind also when it fails. -/
def outcome (step : Drafting α) (draft : Draft) : Except GenerationError α × Draft :=
  step.run.run draft

@[simp] theorem outcome_get (draft : Draft) : outcome get draft = (.ok draft, draft) := rfl

@[simp] theorem outcome_ofExcept (answer : Except GenerationError α) (draft : Draft) :
    outcome (ofExcept answer) draft = (answer, draft) := by
  cases answer <;> rfl

@[simp] theorem outcome_withCatalog (request : Catalog → α × Catalog) (draft : Draft) :
    outcome (withCatalog request) draft =
      (.ok (request draft.catalog).1, { draft with catalog := (request draft.catalog).2 }) := rfl

theorem outcome_bind (step : Drafting α) (next : α → Drafting β) (draft : Draft) :
    outcome (step >>= next) draft =
      match outcome step draft with
      | (.ok value, middle) => outcome (next value) middle
      | (.error reason, middle) => (.error reason, middle) := by
  change (ExceptT.bindCont next (outcome step draft).1).run (outcome step draft).2 = _
  rcases outcome step draft with ⟨answer, middle⟩
  cases answer <;> rfl

theorem outcome_bind_of_ok {step : Drafting α} (next : α → Drafting β) {draft middle : Draft}
    {value : α} (done : outcome step draft = (.ok value, middle)) :
    outcome (step >>= next) draft = outcome (next value) middle := by
  rw [outcome_bind, done]

theorem outcome_bind_ok {step : Drafting α} {next : α → Drafting β} {draft after : Draft}
    {result : β}
    (done : outcome (step >>= next) draft = (.ok result, after)) :
    ∃ value middle, outcome step draft = (.ok value, middle) ∧
      outcome (next value) middle = (.ok result, after) := by
  rw [outcome_bind] at done
  rcases first : outcome step draft with ⟨answer, middle⟩
  rw [first] at done
  cases answer with
  | error reason => cases done
  | ok value => exact ⟨value, middle, rfl, done⟩

theorem outcome_forM_cons (step : α → Drafting PUnit) (item : α) (rest : List α) (draft : Draft) :
    outcome ((item :: rest).forM step) draft =
      outcome (step item >>= fun _ => rest.forM step) draft := rfl

theorem outcome_forM_idle {items : List α} {step : α → Drafting PUnit} {draft : Draft}
    (idle : ∀ item ∈ items, outcome (step item) draft = (.ok ⟨⟩, draft)) :
    outcome (items.forM step) draft = (.ok ⟨⟩, draft) := by
  induction items with
  | nil => rfl
  | cons item rest ih =>
      rw [outcome_forM_cons, outcome_bind_of_ok _ (idle item (by simp))]
      exact ih fun other member => idle other (by simp [member])

/-- The alias of a step is that of the draft; a refused one leaves the draft as it is. -/
theorem outcome_aliasField (inputType field exposed : String) (draft : Draft) :
    outcome (aliasField inputType field exposed) draft =
      match draft.aliasField inputType field exposed with
      | .ok renamed => (.ok ⟨⟩, renamed)
      | .error reason => (.error reason, draft) := by
  cases answer : draft.aliasField inputType field exposed with
  | error reason => simp [aliasField, outcome_bind, answer]
  | ok renamed =>
      simp only [aliasField, outcome_bind, outcome_get, outcome_ofExcept, answer]
      rfl

end Drafting

/-- New types, and all else but the identifiers as before. -/
structure Draft.Builds (before after : Draft) : Prop where
  document : after.document = before.document
  settings : after.settings = before.settings
  catalog : before.catalog.Grows after.catalog
  aliases : after.aliases = before.aliases

instance : IsPreorder Draft Draft.Builds where
  refl _ := ⟨rfl, rfl, .refl, rfl⟩
  trans _ _ _ left right :=
    ⟨right.document.trans left.document, right.settings.trans left.settings,
      left.catalog.trans right.catalog, right.aliases.trans left.aliases⟩

namespace Drafting

variable {α β : Type} {relation : Draft → Draft → Prop}

/-- Whatever its answer, the step leaves a draft that is related to the one it was given. -/
def Keeps (relation : Draft → Draft → Prop) (step : Drafting α) : Prop :=
  ∀ draft : Draft, relation draft (outcome step draft).2

namespace Keeps

variable [IsPreorder Draft relation]

theorem pure (value : α) : Keeps relation (Pure.pure value) := Std.Refl.refl

theorem get : Keeps relation MonadState.get := Std.Refl.refl

theorem ofExcept (answer : Except GenerationError α) : Keeps relation (ofExcept answer) := by
  intro draft
  rw [outcome_ofExcept]
  exact Std.Refl.refl draft

theorem bind {step : Drafting α} {next : α → Drafting β} (first : Keeps relation step)
    (second : ∀ value, Keeps relation (next value)) : Keeps relation (step >>= next) := by
  intro draft
  have kept := first draft
  rw [outcome_bind]
  rcases ran : outcome step draft with ⟨answer, middle⟩
  rw [ran] at kept
  cases answer with
  | error reason => exact kept
  | ok value => exact IsTrans.trans _ _ _ kept (second value middle)

theorem forM {items : List α} {step : α → Drafting PUnit}
    (each : ∀ item, Keeps relation (step item)) : Keeps relation (items.forM step) := by
  induction items with
  | nil => exact pure _
  | cons item rest ih => exact bind (each item) fun _ => ih

theorem mapM {items : List α} {step : α → Drafting β}
    (each : ∀ item, Keeps relation (step item)) : Keeps relation (items.mapM step) := by
  induction items with
  | nil => exact pure _
  | cons item rest ih =>
      rw [List.mapM_cons]
      exact bind (each item) fun _ => bind ih fun _ => pure _

end Keeps

theorem builds_request {ask : Catalog → α × Catalog} (request : Catalog.Request)
    (keyed : request.Keyed) (asked : ∀ catalog, (ask catalog).2 = request.fulfill catalog) :
    Keeps Draft.Builds (withCatalog ask) := by
  intro draft
  rw [outcome_withCatalog, asked]
  exact ⟨rfl, rfl, request.fulfill_grows keyed draft.catalog, rfl⟩

theorem renames_aliasField (inputType field exposed : String) :
    Keeps Draft.Renames (aliasField inputType field exposed) := by
  intro draft
  rw [outcome_aliasField]
  cases answer : draft.aliasField inputType field exposed with
  | error reason => exact .refl
  | ok renamed => exact .single ⟨inputType, field, exposed, answer⟩

end Drafting

namespace Projection

open Drafting

theorem builds_identify (model : Model) : Keeps Draft.Builds (identify model) :=
  .bind (.ofExcept _) fun _ _ => ⟨rfl, rfl, .refl, rfl⟩

theorem builds_filterName? (model : Model) (field : Field) :
    Keeps Draft.Builds (filterName? model field) := by
  unfold filterName?
  split
  · refine .bind (.ofExcept _) fun scalar => .bind .get fun draft => ?_
    split
    · exact .bind (builds_request (.scalarListFilter _) trivial fun _ => rfl) fun _ => .pure _
    · exact .bind (builds_request (.scalarFilter _ scalar) trivial fun _ => rfl) fun _ => .pure _
  · exact .bind (builds_request (.scalarListFilter _) trivial fun _ => rfl) fun _ => .pure _
  · exact .bind (builds_request (.enumFilter _) trivial fun _ => rfl) fun _ => .pure _
  · exact .bind (builds_request (.relationListFilter _) trivial fun _ => rfl) fun _ => .pure _
  · exact .pure _
  · exact .pure _

theorem builds_define (name : String) (fields : List InputField) :
    Keeps Draft.Builds (withCatalog (·.define (.ofFields name fields))) :=
  builds_request (.define (.ofFields name fields)) (InputType.keyed_ofFields name fields)
    fun _ => rfl

theorem builds_defineWhereInput (model : Model) : Keeps Draft.Builds (defineWhereInput model) := by
  refine .bind (.mapM fun field => ?_) fun _ => .bind (builds_define _ _) fun _ => .pure _
  exact .bind (builds_filterName? model field) fun _ => .pure _

theorem builds_defineWhereUniqueInput (model : Model) :
    Keeps Draft.Builds (defineWhereUniqueInput model) := by
  refine .bind .get fun draft => .bind (.ofExcept _) fun typed => ?_
  split
  · exact .bind (.pure _) fun _ => .bind (builds_define _ _) fun _ => .pure _
  · exact .bind (builds_request (.compoundInput _ _) trivial fun _ => rfl) fun _ =>
      .bind (.pure _) fun _ => .bind (builds_define _ _) fun _ => .pure _

/-- Making the types of a document never touches a type that is already there. -/
theorem builds_assemble : Keeps Draft.Builds assemble := by
  refine .bind .get fun draft => .bind (.forM builds_identify) fun _ => ?_
  refine .bind (.ofExcept _) fun objects => .bind (.forM fun model => ?_) fun _ => ?_
  · exact .bind (builds_defineWhereInput model) fun _ => builds_defineWhereUniqueInput model
  · exact .bind (.ofExcept _) fun _ => .pure _

theorem renames_declareAliases (aliases : Table (Table String)) :
    Keeps Draft.Renames (declareAliases aliases) :=
  .forM fun _ => .forM fun _ => renames_aliasField _ _ _

/-- Aliases are declared last, on all that was assembled. -/
theorem outcome_project (draft : Draft) :
    outcome project draft =
      match outcome assemble draft with
      | (.ok graph, middle) =>
          match outcome (declareAliases draft.settings.fieldAliases) middle with
          | (.ok _, after) => (.ok graph, after)
          | (.error reason, after) => (.error reason, after)
      | (.error reason, middle) => (.error reason, middle) := by
  have built := builds_assemble draft
  rw [project, outcome_bind]
  rcases made : outcome assemble draft with ⟨answer, middle⟩
  rw [made] at built
  cases answer with
  | error reason => rfl
  | ok graph =>
      have settings : middle.settings = draft.settings := built.settings
      simp only [outcome_bind, outcome_get, settings]
      rcases outcome (declareAliases draft.settings.fieldAliases) middle with ⟨answer, after⟩
      cases answer <;> rfl

/-- Settings that declare no alias add nothing to what was assembled. -/
theorem outcome_declareAliases_none {aliases : Table (Table String)}
    (none : ∀ entry ∈ aliases.entries, entry.2.entries = []) (draft : Draft) :
    outcome (declareAliases aliases) draft = (.ok ⟨⟩, draft) := by
  refine outcome_forM_idle fun entry member => ?_
  obtain ⟨inputType, renamings⟩ := entry
  have empty : renamings.entries = [] := none _ member
  dsimp only
  rw [empty]
  rfl

end Projection

namespace Draft

/-- A graph is assembled before any alias is declared. -/
theorem assembled_of_projected {document : Document} {settings : Settings} {graph : TypeGraph}
    {draft : Draft} (projected : Draft.project { document, settings } = (.ok graph, draft)) :
    ∃ middle, Drafting.outcome Projection.assemble { document, settings } = (.ok graph, middle) ∧
      Drafting.outcome (Projection.declareAliases settings.fieldAliases) middle =
        (.ok ⟨⟩, draft) := by
  obtain ⟨assembled, middle, made, rest⟩ := Drafting.outcome_bind_ok projected
  obtain ⟨_, _, got, rest⟩ := Drafting.outcome_bind_ok rest
  cases got
  obtain ⟨⟨⟩, _, declared, rest⟩ := Drafting.outcome_bind_ok rest
  cases rest
  have built := Projection.builds_assemble { document, settings }
  rw [made] at built
  have kept : middle.settings = settings := built.settings
  rw [kept] at declared
  exact ⟨middle, made, declared⟩

theorem projected_of_check {draft : Draft} {holds : TypeGraph → Draft → Prop}
    [∀ graph after, Decidable (holds graph after)]
    (checked : draft.project.1.toOption.any (fun graph => holds graph draft.project.2) = true) :
    ∃ graph after, draft.project = (.ok graph, after) ∧ holds graph after := by
  rcases projected : draft.project with ⟨answer, after⟩
  rw [projected] at checked
  cases answer with
  | error reason => cases checked
  | ok graph => exact ⟨graph, after, rfl, of_decide_eq_true checked⟩

end Draft

end GraphBinding
