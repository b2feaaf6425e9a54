import GraphBinding.Proofs.Requests

namespace GraphBinding

/-! Which error a drafting ends with.

`refusal?` forgets everything of an answer but its error.  A sequence of steps is refused as its
first refused step is, so the refusal of a traversal is found by searching its items.
-/

/-- The error of an answer that is one. -/
def refusal? {α : Type} : Except GenerationError α → Option GenerationError
  | .ok _ => none
  | .error reason => some reason

section Answers

variable {α β : Type}

theorem refusal?_eq_none {answer : Except GenerationError α} :
    refusal? answer = none ↔ ∃ value, answer = .ok value := by
  cases answer <;> simp [refusal?]

theorem refusal?_eq_some {answer : Except GenerationError α} {reason : GenerationError} :
    refusal? answer = some reason ↔ answer = .error reason := by
  cases answer <;> simp [refusal?]

theorem refusal?_map (change : α → β) (answer : Except GenerationError α) :
    refusal? (answer.map change) = refusal? answer := by
  cases answer <;> rfl

theorem refusal?_mapM (step : α → Except GenerationError β) (items : List α) :
    refusal? (items.mapM step) = items.findSome? fun item => refusal? (step item) := by
  induction items with
  | nil => rfl
  | cons item rest ih =>
      rw [List.mapM_cons, List.findSome?_cons, ← ih]
      cases step item with
      | error reason => rfl
      | ok value => cases rest.mapM step <;> rfl

end Answers

namespace Drafting

variable {α β : Type}

/-- The error with which a step ends, started with a draft. -/
def refused? (step : Drafting α) (draft : Draft) : Option GenerationError :=
  refusal? (outcome step draft).1

theorem refused?_bind (step : Drafting α) (next : α → Drafting β) (draft : Draft) :
    refused? (step >>= next) draft =
      match outcome step draft with
      | (.ok value, middle) => refused? (next value) middle
      | (.error reason, _) => some reason := by
  rw [refused?, outcome_bind]
  rcases outcome step draft with ⟨answer, middle⟩
  cases answer <;> rfl

theorem refused?_ofExcept (answer : Except GenerationError α) (draft : Draft) :
    refused? (ofExcept answer) draft = refusal? answer := by
  rw [refused?, outcome_ofExcept]

/-- What comes second matters only where the first step is not refused. -/
theorem refused?_bind_eq_or {step : Drafting α} {next : α → Drafting β} {draft : Draft}
    {first second : Option GenerationError} (left : refused? step draft = first)
    (right : first = none → ∀ value middle, outcome step draft = (.ok value, middle) →
      refused? (next value) middle = second) :
    refused? (step >>= next) draft = first.or second := by
  rw [refused?_bind]
  rw [refused?] at left
  rcases ran : outcome step draft with ⟨answer, middle⟩
  rw [ran] at left
  cases answer with
  | error reason =>
      subst left
      rfl
  | ok value =>
      subst left
      exact right rfl value middle ran

theorem refused?_eq_none {step : Drafting PUnit} {draft : Draft}
    (accepted : refused? step draft = none) :
    outcome step draft = (.ok ⟨⟩, (outcome step draft).2) := by
  obtain ⟨⟨⟩, answered⟩ := refusal?_eq_none.1 accepted
  exact Prod.ext answered rfl

/-- The step is not refused, whatever draft it is given. -/
def Succeeds (step : Drafting α) : Prop := ∀ draft, refused? step draft = none

theorem refused?_bind_succeeds (step : Drafting α) {next : α → Drafting β}
    (rest : ∀ value, Succeeds (next value)) (draft : Draft) :
    refused? (step >>= next) draft = refused? step draft := by
  rw [refused?_bind_eq_or rfl fun _ value middle _ => rest value middle, Option.or_none]

/-- A repeated step is refused at the first item that is, if every step that is not refused
leaves a draft of the kind it was given. -/
theorem refused?_forM (holds : Draft → Prop) {items : List α} {step : α → Drafting PUnit}
    {refusing : α → Option GenerationError}
    (each : ∀ item ∈ items, ∀ draft, holds draft →
      refused? (step item) draft = refusing item ∧
        (refusing item = none → holds (outcome (step item) draft).2))
    {draft : Draft} (start : holds draft) :
    refused? (items.forM step) draft = items.findSome? refusing := by
  induction items generalizing draft with
  | nil => rfl
  | cons item rest ih =>
      obtain ⟨first, kept⟩ := each item (by simp) draft start
      have sequence : refused? ((item :: rest).forM step) draft =
          (refusing item).or (rest.findSome? refusing) := by
        refine refused?_bind_eq_or first fun accepted value middle ran => ?_
        have holdsNext := kept accepted
        rw [ran] at holdsNext
        exact ih (fun other member => each other (by simp [member])) holdsNext
      rw [sequence, List.findSome?_cons]
      cases refusing item <;> rfl

namespace Succeeds

theorem pure (value : α) : Succeeds (Pure.pure value) := fun _ => rfl

theorem get : Succeeds MonadState.get := fun _ => rfl

theorem withCatalog (request : Catalog → α × Catalog) : Succeeds (withCatalog request) :=
  fun _ => rfl

theorem ofExcept {answer : Except GenerationError α} (accepted : refusal? answer = none) :
    Succeeds (ofExcept answer) := by
  intro draft
  rwa [refused?, outcome_ofExcept]

theorem bind {step : Drafting α} {next : α → Drafting β} (first : Succeeds step)
    (second : ∀ value, Succeeds (next value)) : Succeeds (step >>= next) := by
  intro draft
  rw [refused?_bind_succeeds step second, first draft]

theorem mapM {items : List α} {step : α → Drafting β}
    (each : ∀ item ∈ items, Succeeds (step item)) : Succeeds (items.mapM step) := by
  induction items with
  | nil => exact pure _
  | cons item rest ih =>
      rw [List.mapM_cons]
      exact bind (each item (by simp)) fun _ =>
        bind (ih fun other member => each other (by simp [member])) fun _ => pure _

end Succeeds

end Drafting

end GraphBinding
