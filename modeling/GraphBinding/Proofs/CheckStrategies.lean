import GraphBinding.Client.Check
import GraphBinding.Proofs.IdentityTiers

namespace GraphBinding

/-! The strategies of the client check, compared.

Each one is decided by the client's identity, by the first model that the client cannot list, or by
both.
-/

/-- The same settings with the client checked in another way. -/
def RuntimeSettings.checking (settings : RuntimeSettings) (strategy : CheckStrategy) :
    RuntimeSettings :=
  { settings with clientCheck := { settings.clientCheck with strategy } }

namespace CheckProblem

theorem message_both (slot reported expected model : String) :
    message (.both slot reported expected model) =
      identityText slot reported expected ++ " and " ++ incompleteText slot model := rfl

/-- Where a text about an incomplete client has the model. -/
theorem append_incompleteText (start slot model : String) :
    start ++ incompleteText slot model =
      start ++ ("the client on context field `" ++ slot) ++ "` has no `findMany` for model `" ++
        model ++ "`" := by
  have regroup (first second third last : String) :
      start ++ (first ++ second ++ third ++ last) = start ++ first ++ second ++ third ++ last := by
    simp only [String.append_assoc]
  exact regroup _ _ _ _

end CheckProblem

namespace DataClient

/-- The check lets a resolver use the client. -/
def Passes (client : DataClient) (models : List String) (settings : RuntimeSettings) : Prop :=
  (client.check models settings).enforce = .ok ()

/-- The first of the models that the client cannot list. -/
def FirstMissing (client : DataClient) (models : List String) (model : String) : Prop :=
  IsFirst models (client.offers · .findMany = false) model

variable {client : DataClient} {models : List String} {settings : RuntimeSettings}
  {strategy : CheckStrategy} {model : String}

theorem missingModel?_eq_none :
    client.missingModel? models = none ↔
      ∀ model ∈ models, client.offers model .findMany = true := by
  simp [missingModel?]

theorem missingModel?_eq_some :
    client.missingModel? models = some model ↔ client.FirstMissing models model := by
  rw [missingModel?, find?_eq_some_iff_isFirst, FirstMissing]
  simp only [decide_not, Bool.decide_eq_true, Bool.not_eq_true']

theorem enforce_eq_error {outcome : CheckOutcome} {error : ResolveError} :
    outcome.enforce = .error error ↔
      ∃ problem, outcome = .fail problem ∧ error = .clientCheck problem := by
  cases outcome <;> simp [CheckOutcome.enforce, eq_comm]

section

variable (enabled : settings.clientCheck.enabled = true)
include enabled

theorem check_strict :
    client.check models (settings.checking .strict) =
      if client.identity = settings.clientIdentity then .pass
      else .fail (.identity settings.contextField client.identity settings.clientIdentity) := by
  rw [check]
  exact if_neg (not_not_intro enabled)

theorem check_structural :
    client.check models (settings.checking .structural) =
      match client.missingModel? models with
      | none => .pass
      | some model => .fail (.incomplete settings.contextField model) := by
  rw [check]
  exact if_neg (not_not_intro enabled)

theorem check_strictWithFallback :
    client.check models (settings.checking .strictWithFallback) =
      if client.identity = settings.clientIdentity then .pass
      else
        match client.missingModel? models with
        | none => .passWithWarning
            (.identity settings.contextField client.identity settings.clientIdentity)
        | some model => .fail
            (.both settings.contextField client.identity settings.clientIdentity model) := by
  rw [check]
  exact if_neg (not_not_intro enabled)

theorem passes_strict :
    client.Passes models (settings.checking .strict) ↔
      client.identity = settings.clientIdentity := by
  rw [Passes, check_strict enabled]
  split <;> simp [CheckOutcome.enforce, *]

theorem passes_structural :
    client.Passes models (settings.checking .structural) ↔
      ∀ model ∈ models, client.offers model .findMany = true := by
  rw [Passes, check_structural enabled, ← missingModel?_eq_none]
  cases client.missingModel? models <;> simp [CheckOutcome.enforce]

theorem passes_strictWithFallback :
    client.Passes models (settings.checking .strictWithFallback) ↔
      client.Passes models (settings.checking .strict) ∨
        client.Passes models (settings.checking .structural) := by
  rw [passes_strict enabled, passes_structural enabled, Passes, check_strictWithFallback enabled,
    ← missingModel?_eq_none]
  split
  · simp [CheckOutcome.enforce, *]
  · cases client.missingModel? models <;> simp [CheckOutcome.enforce, *]

/-- A check that probes for methods fails at the first model that the client cannot list. -/
theorem fail_names_firstMissing {problem : CheckProblem} (probes : strategy ≠ .strict)
    (failed : client.check models (settings.checking strategy) = .fail problem) :
    ∃ model start, client.FirstMissing models model ∧
      problem.message = start ++ "` has no `findMany` for model `" ++ model ++ "`" := by
  obtain ⟨model, start, missing, text⟩ : ∃ model start, client.missingModel? models = some model ∧
      problem.message = start ++ CheckProblem.incompleteText settings.contextField model := by
    cases strategy with
    | strict => exact absurd rfl probes
    | structural =>
        rw [check_structural enabled] at failed
        cases missing : client.missingModel? models with
        | none => simp [missing] at failed
        | some model =>
            simp only [missing, CheckOutcome.fail.injEq] at failed
            subst failed
            exact ⟨model, "", rfl, String.empty_append.symm⟩
    | strictWithFallback =>
        rw [check_strictWithFallback enabled] at failed
        split at failed
        · cases failed
        · cases missing : client.missingModel? models with
          | none => simp [missing] at failed
          | some model =>
              simp only [missing, CheckOutcome.fail.injEq] at failed
              subst failed
              exact ⟨model, _, rfl, CheckProblem.message_both _ _ _ model⟩
  exact ⟨model, _, missingModel?_eq_some.1 missing,
    text.trans (CheckProblem.append_incompleteText start settings.contextField model)⟩

theorem passWithWarning_iff :
    (∃ problem, client.check models (settings.checking strategy) = .passWithWarning problem) ↔
      strategy = .strictWithFallback ∧ ¬ client.Passes models (settings.checking .strict) ∧
        client.Passes models (settings.checking .structural) := by
  rw [passes_strict enabled, passes_structural enabled, ← missingModel?_eq_none]
  cases strategy with
  | strict =>
      rw [check_strict enabled]
      split <;> simp
  | structural =>
      rw [check_structural enabled]
      cases client.missingModel? models <;> simp
  | strictWithFallback =>
      rw [check_strictWithFallback enabled]
      split
      · simp [*]
      · cases client.missingModel? models <;> simp [*]

theorem passes_of_passes_append {more : List String}
    (passes : client.Passes (models ++ more) (settings.checking strategy)) :
    client.Passes models (settings.checking strategy) := by
  have shorter (offered : ∀ model ∈ models ++ more, client.offers model .findMany = true) :
      ∀ model ∈ models, client.offers model .findMany = true :=
    (List.forall_mem_append.1 offered).1
  cases strategy with
  | strict => rwa [passes_strict enabled] at passes ⊢
  | structural =>
      rw [passes_structural enabled] at passes ⊢
      exact shorter passes
  | strictWithFallback =>
      simp only [passes_strictWithFallback enabled, passes_strict enabled,
        passes_structural enabled] at passes ⊢
      exact passes.imp_right shorter

end

/-- An enabled check with fallback passes if and only if the strict or the structural one does, of
which one asks for the configured identity and the other for all models.  It warns where only the
structural one passes.  A check that probes for methods fails at the first model that the client
cannot list, and a check that passes for some models passes for the first of them. -/
theorem check_strategies_compose (client : DataClient) (models : List String)
    {settings : RuntimeSettings} (enabled : settings.clientCheck.enabled = true) :
    (client.Passes models (settings.checking .strictWithFallback) ↔
      client.Passes models (settings.checking .strict) ∨
        client.Passes models (settings.checking .structural)) ∧
    (client.Passes models (settings.checking .strict) ↔
      client.identity = settings.clientIdentity) ∧
    (client.Passes models (settings.checking .structural) ↔
      ∀ model ∈ models, client.offers model .findMany = true) ∧
    (∀ strategy error, strategy ≠ .strict →
      (client.check models (settings.checking strategy)).enforce = .error error →
      ∃ problem model start, error = .clientCheck problem ∧ client.FirstMissing models model ∧
        problem.message = start ++ "` has no `findMany` for model `" ++ model ++ "`") ∧
    (∀ strategy,
      (∃ problem, client.check models (settings.checking strategy) = .passWithWarning problem) ↔
        strategy = .strictWithFallback ∧ ¬ client.Passes models (settings.checking .strict) ∧
          client.Passes models (settings.checking .structural)) ∧
    ∀ strategy more, client.Passes (models ++ more) (settings.checking strategy) →
      client.Passes models (settings.checking strategy) := by
  refine ⟨passes_strictWithFallback enabled, passes_strict enabled, passes_structural enabled, ?_,
    fun _ => passWithWarning_iff enabled, fun _ _ => passes_of_passes_append enabled⟩
  intro strategy error probes refused
  obtain ⟨problem, failed, rfl⟩ := enforce_eq_error.1 refused
  obtain ⟨model, start, missing, text⟩ := fail_names_firstMissing enabled probes failed
  exact ⟨problem, model, start, rfl, missing, text⟩

/-- A client of another identity that has two models. -/
def lookalike : DataClient where
  identity := "mock"
  offers model _ := model ∈ ["User", "Post"]
  execute _ _ := .error "offline"
  transact _ _ := .error "offline"

theorem check_strategies_compose_lookalike :
    (∃ problem, lookalike.check ["User", "Post"] {} = .passWithWarning problem) ∧
      ∀ more, ¬ lookalike.Passes (["User", "Tag"] ++ more) {} := by
  constructor
  · obtain ⟨-, strict, structural, -, warns, -⟩ :=
      @check_strategies_compose lookalike ["User", "Post"] {} rfl
    exact (warns .strictWithFallback).2
      ⟨rfl, fun passes => absurd (strict.1 passes) (by decide), structural.2 (by decide)⟩
  · intro more passes
    obtain ⟨fallback, strict, structural, -, -, fewer⟩ :=
      @check_strategies_compose lookalike ["User", "Tag"] {} rfl
    rcases fallback.1 (fewer .strictWithFallback more passes) with identified | offered
    · exact absurd (strict.1 identified) (by decide)
    · exact absurd (structural.1 offered) (by decide)

end DataClient

end GraphBinding
