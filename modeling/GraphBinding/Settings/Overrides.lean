import GraphBinding.Settings

namespace GraphBinding

/-! Changes to runtime settings, and overrides in which they gather while a program runs. -/

structure ClientCheckChange where
  enabled : Option Bool := none
  strategy : Option CheckStrategy := none
deriving DecidableEq, Repr

structure ChecksChange where
  clientCheck : Option ClientCheckChange := none
deriving DecidableEq, Repr

/-- A change to runtime settings; what it does not mention stays. -/
structure SettingsChange where
  contextField : Option String := none
  clientIdentity : Option String := none
  checks : Option ChecksChange := none
deriving DecidableEq, Repr

namespace ClientCheck

def merge (check : ClientCheck) (change : ClientCheckChange) : ClientCheck where
  enabled := change.enabled.getD check.enabled
  strategy := change.strategy.getD check.strategy

end ClientCheck

namespace SettingsChange

/-- What the change says about the client check, if anything. -/
def clientCheck (change : SettingsChange) : Option ClientCheckChange :=
  change.checks.bind ChecksChange.clientCheck

end SettingsChange

namespace RuntimeSettings

def merge (settings : RuntimeSettings) (change : SettingsChange) : RuntimeSettings where
  contextField := change.contextField.getD settings.contextField
  clientIdentity := change.clientIdentity.getD settings.clientIdentity
  clientCheck :=
    match change.clientCheck with
    | some checkChange => settings.clientCheck.merge checkChange
    | none => settings.clientCheck

end RuntimeSettings

namespace ClientCheckChange

def overlay (earlier later : ClientCheckChange) : ClientCheckChange where
  enabled := later.enabled.or earlier.enabled
  strategy := later.strategy.or earlier.strategy

end ClientCheckChange

namespace SettingsChange

/-- Both changes as one; where both speak the later one counts.  A later change that says
nothing about the client check leaves that part as it was. -/
def overlay (earlier later : SettingsChange) : SettingsChange where
  contextField := later.contextField.or earlier.contextField
  clientIdentity := later.clientIdentity.or earlier.clientIdentity
  checks :=
    match later.clientCheck with
    | some change => some ⟨some ((earlier.clientCheck.getD {}).overlay change)⟩
    | none => earlier.checks

end SettingsChange

/-- All changes made so far, as one. -/
structure Overrides where
  change : SettingsChange := {}
deriving DecidableEq, Repr

namespace Overrides

def add (overrides : Overrides) (change : SettingsChange) : Overrides :=
  ⟨overrides.change.overlay change⟩

/-- Settings under the overrides. -/
def settingsOver (overrides : Overrides) (base : RuntimeSettings) : RuntimeSettings :=
  base.merge overrides.change

/-- The overrides that a sequence of changes leaves. -/
def after (changes : List SettingsChange) : Overrides := changes.foldl add {}

end Overrides

end GraphBinding
