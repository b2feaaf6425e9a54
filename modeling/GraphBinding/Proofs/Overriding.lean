import GraphBinding.Settings.Overrides

namespace GraphBinding

/-! Changes of settings, made one by one or all at once.

A change acts on settings by `merge`, and two changes are put together by `overlay`.  Both walk
through the same optional levels, each in its own way, and a level may be there without saying
anything.  `Setting` is one value at the end of such a walk.
-/

attribute [ext] SettingsChange RuntimeSettings ClientCheck

namespace ClientCheckChange

theorem empty_overlay (change : ClientCheckChange) :
    ({} : ClientCheckChange).overlay change = change := by
  simp only [overlay, Option.or_none]

theorem overlay_assoc (first second third : ClientCheckChange) :
    (first.overlay second).overlay third = first.overlay (second.overlay third) := by
  simp only [overlay, Option.or_assoc]

theorem overlay_self (change : ClientCheckChange) : change.overlay change = change := by
  simp only [overlay, Option.or_self]

end ClientCheckChange

namespace SettingsChange

variable {earlier later : SettingsChange}

theorem checks_overlay_of_some {change : ClientCheckChange}
    (stated : later.clientCheck = some change) :
    (earlier.overlay later).checks =
      some ⟨some ((earlier.clientCheck.getD {}).overlay change)⟩ := by
  simp only [overlay, stated]

theorem checks_overlay_of_none (silent : later.clientCheck = none) :
    (earlier.overlay later).checks = earlier.checks := by
  simp only [overlay, silent]

theorem clientCheck_overlay_of_some {change : ClientCheckChange}
    (stated : later.clientCheck = some change) :
    (earlier.overlay later).clientCheck =
      some ((earlier.clientCheck.getD {}).overlay change) := by
  rw [clientCheck, checks_overlay_of_some stated, Option.bind_some]

theorem clientCheck_overlay_of_none (silent : later.clientCheck = none) :
    (earlier.overlay later).clientCheck = earlier.clientCheck := by
  rw [clientCheck, checks_overlay_of_none silent, ← clientCheck]

theorem checks_overlay_assoc (first second third : SettingsChange) :
    ((first.overlay second).overlay third).checks =
      (first.overlay (second.overlay third)).checks := by
  cases last : third.clientCheck with
  | none =>
      have both : (second.overlay third).clientCheck = second.clientCheck :=
        clientCheck_overlay_of_none last
      rw [checks_overlay_of_none last]
      cases middle : second.clientCheck with
      | none => rw [checks_overlay_of_none middle, checks_overlay_of_none (both.trans middle)]
      | some change =>
          rw [checks_overlay_of_some middle, checks_overlay_of_some (both.trans middle)]
  | some change =>
      rw [checks_overlay_of_some last, checks_overlay_of_some (clientCheck_overlay_of_some last)]
      cases middle : second.clientCheck with
      | none =>
          rw [clientCheck_overlay_of_none middle, Option.getD_none,
            ClientCheckChange.empty_overlay]
      | some between =>
          rw [clientCheck_overlay_of_some middle, Option.getD_some, Option.getD_some,
            ClientCheckChange.overlay_assoc]

theorem overlay_assoc (first second third : SettingsChange) :
    (first.overlay second).overlay third = first.overlay (second.overlay third) := by
  apply SettingsChange.ext
  · simp only [overlay, Option.or_assoc]
  · simp only [overlay, Option.or_assoc]
  · exact checks_overlay_assoc first second third

theorem overlay_twice (change last : SettingsChange) :
    (change.overlay last).overlay last = change.overlay last := by
  apply SettingsChange.ext
  · simp only [overlay, ← Option.or_assoc, Option.or_self]
  · simp only [overlay, ← Option.or_assoc, Option.or_self]
  · cases stated : last.clientCheck with
    | none => rw [checks_overlay_of_none stated]
    | some check =>
        rw [checks_overlay_of_some stated, checks_overlay_of_some stated,
          clientCheck_overlay_of_some stated, Option.getD_some, ClientCheckChange.overlay_assoc,
          ClientCheckChange.overlay_self]

end SettingsChange

/-- One of the runtime settings, and what a change says about it. -/
structure Setting (α : Type) where
  value : RuntimeSettings → α
  stated? : SettingsChange → Option α
  value_merge : ∀ settings change,
    value (settings.merge change) = (stated? change).getD (value settings)
  stated?_overlay : ∀ earlier later,
    stated? (earlier.overlay later) = (stated? later).or (stated? earlier)

namespace Setting

def contextField : Setting String where
  value := RuntimeSettings.contextField
  stated? := SettingsChange.contextField
  value_merge _ _ := rfl
  stated?_overlay _ _ := rfl

def clientIdentity : Setting String where
  value := RuntimeSettings.clientIdentity
  stated? := SettingsChange.clientIdentity
  value_merge _ _ := rfl
  stated?_overlay _ _ := rfl

/-- A setting of the client check, given how it is merged and overlaid there. -/
def ofClientCheck {α : Type} (value : ClientCheck → α) (stated? : ClientCheckChange → Option α)
    (merged : ∀ check change, value (check.merge change) = (stated? change).getD (value check))
    (overlaid : ∀ earlier later,
      stated? (earlier.overlay later) = (stated? later).or (stated? earlier))
    (silent : stated? {} = none) : Setting α where
  value settings := value settings.clientCheck
  stated? change := change.clientCheck.bind stated?
  value_merge settings change := by
    cases stated : change.clientCheck with
    | none => simp only [RuntimeSettings.merge, stated, Option.bind_none, Option.getD_none]
    | some check => simp only [RuntimeSettings.merge, stated, Option.bind_some, merged]
  stated?_overlay earlier later := by
    cases stated : later.clientCheck with
    | none =>
        rw [SettingsChange.clientCheck_overlay_of_none stated, Option.bind_none, Option.none_or]
    | some check =>
        rw [SettingsChange.clientCheck_overlay_of_some stated, Option.bind_some, Option.bind_some,
          overlaid]
        cases earlier.clientCheck with
        | none => rw [Option.getD_none, silent, Option.bind_none]
        | some former => rw [Option.getD_some, Option.bind_some]

def checkEnabled : Setting Bool :=
  ofClientCheck ClientCheck.enabled ClientCheckChange.enabled (fun _ _ => rfl) (fun _ _ => rfl) rfl

def checkStrategy : Setting CheckStrategy :=
  ofClientCheck ClientCheck.strategy ClientCheckChange.strategy (fun _ _ => rfl) (fun _ _ => rfl)
    rfl

variable {α : Type} (setting : Setting α)

theorem value_merge_merge (settings : RuntimeSettings) (earlier later : SettingsChange) :
    setting.value ((settings.merge earlier).merge later) =
      setting.value (settings.merge (earlier.overlay later)) := by
  rw [setting.value_merge, setting.value_merge, setting.value_merge, setting.stated?_overlay,
    Option.getD_or]

/-- The last change that says something about a setting decides on it. -/
theorem value_foldl_merge (changes : List SettingsChange) (base : RuntimeSettings) :
    setting.value (changes.foldl RuntimeSettings.merge base) =
      (changes.filterMap setting.stated?).getLast?.getD (setting.value base) := by
  induction changes generalizing base with
  | nil => rfl
  | cons change rest ih =>
      rw [List.foldl_cons, ih, setting.value_merge]
      cases stated : setting.stated? change with
      | none => rw [List.filterMap_cons_none stated, Option.getD_none]
      | some value =>
          rw [List.filterMap_cons_some stated, List.getLast?_cons, Option.getD_some,
            Option.getD_some]

end Setting

namespace RuntimeSettings

/-- Settings are nothing but their values. -/
theorem eq_of_settings {first second : RuntimeSettings}
    (same : ∀ {α : Type} (setting : Setting α), setting.value first = setting.value second) :
    first = second := by
  apply RuntimeSettings.ext
  · exact same .contextField
  · exact same .clientIdentity
  · apply ClientCheck.ext
    · exact same .checkEnabled
    · exact same .checkStrategy

theorem merge_merge (settings : RuntimeSettings) (earlier later : SettingsChange) :
    (settings.merge earlier).merge later = settings.merge (earlier.overlay later) :=
  eq_of_settings fun setting => setting.value_merge_merge settings earlier later

end RuntimeSettings

namespace Overrides

theorem settingsOver_add (overrides : Overrides) (change : SettingsChange)
    (base : RuntimeSettings) :
    (overrides.add change).settingsOver base = (overrides.settingsOver base).merge change :=
  (base.merge_merge overrides.change change).symm

theorem settingsOver_foldl_add (changes : List SettingsChange) (overrides : Overrides)
    (base : RuntimeSettings) :
    (changes.foldl add overrides).settingsOver base =
      changes.foldl RuntimeSettings.merge (overrides.settingsOver base) := by
  induction changes generalizing overrides with
  | nil => rfl
  | cons change rest ih => rw [List.foldl_cons, ih, settingsOver_add, List.foldl_cons]

theorem settingsOver_after (changes : List SettingsChange) (base : RuntimeSettings) :
    (after changes).settingsOver base = changes.foldl RuntimeSettings.merge base :=
  settingsOver_foldl_add changes {} base

theorem add_twice (overrides : Overrides) (last : SettingsChange) :
    (overrides.add last).add last = overrides.add last :=
  congrArg Overrides.mk (overrides.change.overlay_twice last)

theorem after_append_twice (changes : List SettingsChange) (last : SettingsChange) :
    after (changes ++ [last, last]) = after (changes ++ [last]) := by
  simp only [after, List.foldl_append, List.foldl_cons, List.foldl_nil, add_twice]

end Overrides

/-- Overrides that gather in the process say the same as their changes merged one after the other,
whatever they are laid over.  So each setting has the value of the last change that states it, and
where there is none the value of the base. -/
theorem overrides_are_merges_in_order :
    (∀ (changes : List SettingsChange) (base : RuntimeSettings),
      (Overrides.after changes).settingsOver base = changes.foldl RuntimeSettings.merge base) ∧
    (∀ (settings : RuntimeSettings) (earlier later : SettingsChange),
      (settings.merge earlier).merge later = settings.merge (earlier.overlay later)) ∧
    (∀ first second third : SettingsChange,
      (first.overlay second).overlay third = first.overlay (second.overlay third)) ∧
    (∀ (changes : List SettingsChange) (last : SettingsChange),
      Overrides.after (changes ++ [last, last]) = Overrides.after (changes ++ [last])) ∧
    ∀ (changes : List SettingsChange) (base : RuntimeSettings),
      let settings := (Overrides.after changes).settingsOver base
      settings.contextField =
          (changes.filterMap (·.contextField)).getLast?.getD base.contextField ∧
        settings.clientIdentity =
          (changes.filterMap (·.clientIdentity)).getLast?.getD base.clientIdentity ∧
        settings.clientCheck.enabled =
          (changes.filterMap (·.clientCheck.bind (·.enabled))).getLast?.getD
            base.clientCheck.enabled ∧
        settings.clientCheck.strategy =
          (changes.filterMap (·.clientCheck.bind (·.strategy))).getLast?.getD
            base.clientCheck.strategy := by
  refine ⟨Overrides.settingsOver_after, RuntimeSettings.merge_merge, SettingsChange.overlay_assoc,
    Overrides.after_append_twice, ?_⟩
  intro changes base settings
  have merged : settings = changes.foldl RuntimeSettings.merge base :=
    Overrides.settingsOver_after changes base
  rw [merged]
  refine ⟨?_, ?_, ?_, ?_⟩
  · exact Setting.contextField.value_foldl_merge changes base
  · exact Setting.clientIdentity.value_foldl_merge changes base
  · exact Setting.checkEnabled.value_foldl_merge changes base
  · exact Setting.checkStrategy.value_foldl_merge changes base

end GraphBinding
