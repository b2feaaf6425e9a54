import GraphBinding.ResolveError
import GraphBinding.Settings

namespace GraphBinding

/-! Checking that the slot really holds the expected data client. -/

inductive CheckOutcome where
  | pass
  /-- The identity is wrong, but the client offers what is needed. -/
  | passWithWarning (problem : CheckProblem)
  | fail (problem : CheckProblem)
deriving DecidableEq, Repr

namespace CheckOutcome

def text? : CheckOutcome → Option String
  | .pass => none
  | .passWithWarning problem => some (problem.message ++ "; it passed the structural check instead")
  | .fail problem => some problem.message

def enforce : CheckOutcome → Except ResolveError Unit
  | .fail problem => .error (.clientCheck problem)
  | _ => .ok ()

end CheckOutcome

namespace DataClient

/-- The first of the models whose records the client cannot list. -/
def missingModel? (client : DataClient) (models : List String) : Option String :=
  models.find? fun model => ¬ client.offers model .findMany

/-- Runs the configured check for the models of a schema. -/
def check (client : DataClient) (models : List String) (settings : RuntimeSettings) :
    CheckOutcome :=
  let slot := settings.contextField
  let expected := settings.clientIdentity
  if ¬ settings.clientCheck.enabled then .pass
  else
    match settings.clientCheck.strategy with
    | .strict =>
        if client.identity = expected then .pass
        else .fail (.identity slot client.identity expected)
    | .structural =>
        match client.missingModel? models with
        | none => .pass
        | some model => .fail (.incomplete slot model)
    | .strictWithFallback =>
        if client.identity = expected then .pass
        else
          match client.missingModel? models with
          | none => .passWithWarning (.identity slot client.identity expected)
          | some model => .fail (.both slot client.identity expected model)

end DataClient

end GraphBinding
