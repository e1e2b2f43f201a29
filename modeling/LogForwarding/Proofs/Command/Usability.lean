import LogForwarding.Proofs.Command.Outcome
import LogForwarding.Proofs.Outcome

/-!
# Usable settings

The settings are checked in two places: when they are loaded, and when a specification is
about to be normalized for their operator. The command that checks settings only goes through
the first place, which of the operator's surroundings looks at the namespace alone. The second
place looks at all three.

So settings that are reported as usable can be unusable after all, in two ways, and the
command that finds out does not end with the exit code of unusable settings.

## What is proved

* `Spec.normalize_ne_setting`: a normalization itself does not fail on account of a setting.
* `Settings.emptyField?_operator_eq_some_iff`: what may still be wrong with the operator's
  surroundings in settings without fault.
* `configurationError_iff`: when a command fails on account of settings that were reported as
  usable, and in which error.
* `exists_configurationError`: settings that are reported as usable, and with which a command
  fails on their account.
-/

namespace LogForwarding

/-- Whether an error is about settings. -/
def CommandError.isConfiguration : CommandError → Bool
  | settings _ => true
  | service (.settings _) => true
  | forwarding (.setting _ _) => true
  | _ => false

/-- Whether a run ended in an error about settings. -/
def Run.IsConfigurationError (run : Run) (error : CommandError) : Prop :=
  run.outcome.error = some error ∧ error.isConfiguration

/-- **A normalization** does not fail on account of a setting: it fails for lack of a store,
or at a look-up. -/
theorem Spec.normalize_ne_setting {spec : Spec} {store : Option Store} {lookup : SecretLookup}
    {operator : Operator} {error : ForwardingError}
    (h : (spec.normalize store lookup operator).value = .error error) :
    ¬ (CommandError.forwarding error).isConfiguration := by
  rcases normalize_eq_error_iff.1 h with hmigrate | ⟨migrated, -, hfailure⟩
  · obtain ⟨-, rfl⟩ := migrate_eq_error_iff.1 hmigrate
    exact nofun
  · obtain ⟨output, secret, source, -, rfl⟩ :=
      Migrated.failure?_outputReviews_eq_some_iff.1 hfailure
    exact nofun

/-- Of the operator's surroundings in settings without fault, the collector's secret may be
without a name, and else the store without an address. -/
theorem Settings.emptyField?_operator_eq_some_iff {settings : Settings}
    (h : settings.invalid? = none) {field : Operator.Field} :
    settings.operator.emptyField? = some field ↔
      settings.operator.collectorSecret = "" ∧ field = .collectorSecret
        ∨ settings.operator.collectorSecret ≠ "" ∧ settings.operator.defaultStoreUrl = ""
          ∧ field = .defaultStoreUrl := by
  have hnamespace : settings.operator.operatorNamespace ≠ "" := (invalid?_eq_none_iff.1 h).2.2.1
  unfold Operator.emptyField?
  by_cases hsecret : settings.operator.collectorSecret = "" <;>
    by_cases hurl : settings.operator.defaultStoreUrl = "" <;>
      simp [hnamespace, hsecret, hurl, @eq_comm _ field]

theorem Settings.exists_emptyField?_operator_iff {settings : Settings}
    (h : settings.invalid? = none) : (∃ field, settings.operator.emptyField? = some field) ↔
      settings.operator.collectorSecret = "" ∨ settings.operator.defaultStoreUrl = "" := by
  simp only [emptyField?_operator_eq_some_iff h]
  by_cases hsecret : settings.operator.collectorSecret = "" <;> simp [hsecret]

/-- **A file is not normalized** on account of a setting iff it could be, but for the
operator's surroundings. -/
theorem Spec.normalizeFile_eq_configuration_iff {files : Files} {settings : Settings}
    {options : StoreOptions} {path : String} {error : CommandError} :
    (normalizeFile files settings options path).value = .error error ∧ error.isConfiguration ↔
      (∃ spec store, IsInput files settings options path spec store)
        ∧ ∃ field, settings.operator.emptyField? = some field
          ∧ error = .forwarding (.setting field.name "must not be empty") := by
  by_cases hinput : ∃ spec store, IsInput files settings options path spec store
  · obtain ⟨spec, store, hinput⟩ := hinput
    simp only [show ∃ spec store, IsInput files settings options path spec store from
      ⟨spec, store, hinput⟩, true_and]
    cases hempty : settings.operator.emptyField? with
    | some field =>
      rw [normalizeFile_of_emptyField? hinput hempty]
      constructor
      · rintro ⟨h, -⟩
        exact ⟨field, rfl, (Except.error.inj h).symm⟩
      · rintro ⟨other, hfield, rfl⟩
        obtain rfl := Option.some.inj hfield
        exact ⟨rfl, rfl⟩
    | none =>
      rw [value_normalizeFile hinput, Operator.checked_eq_ok_iff.2 ⟨hempty, rfl⟩]
      dsimp only
      rw [mapError_eq_error_iff]
      constructor
      · rintro ⟨⟨source, hsource, rfl⟩, hconfiguration⟩
        exact absurd hconfiguration (normalize_ne_setting hsource)
      · rintro ⟨field, hfield, -⟩
        exact absurd hfield nofun
  · obtain ⟨failure, hfailure, hother⟩ := normalizeFile_of_not_isInput hinput
    rw [hfailure]
    constructor
    · rintro ⟨h, hconfiguration⟩
      obtain rfl := Except.error.inj h
      rcases hother with ⟨reason, rfl⟩ | ⟨reason, rfl⟩ <;> exact absurd hconfiguration nofun
    · exact fun h => absurd h.1 hinput

namespace Invocation

variable {invocation : Invocation} {surroundings : Surroundings} {path : String}
  {options : StoreOptions}

/-- Whether the command is about a specification. -/
def IsAbout (invocation : Invocation) (path : String) (options : StoreOptions) : Prop :=
  invocation.request = .normalize path options ∨ invocation.request = .validate path options

/-- A command about a specification fails on account of a setting iff its normalization does. -/
theorem isConfigurationError_iff_result (h : invocation.IsAbout path options)
    {error : CommandError} : (invocation.run surroundings).IsConfigurationError error ↔
      invocation.result surroundings path options = .error error ∧ error.isConfiguration := by
  unfold Run.IsConfigurationError
  refine and_congr_left fun hconfiguration => ?_
  rcases h with hrequest | hrequest
  · rw [error_normalize hrequest]
    cases invocation.result surroundings path options <;> simp
  · rw [error_validate hrequest]
    cases invocation.result surroundings path options with
    | error failure => simp
    | ok found =>
      -- the verdict is no error about settings
      have hverdict : CommandError.ofSummary found.status.summary ≠ error := by
        rintro rfl
        exact absurd hconfiguration nofun
      by_cases haccepted : found.status.isFullyAccepted <;> simp [haccepted, hverdict]

end Invocation

/-- **Settings that are reported as usable**: a command about a specification that finds the
same settings file and the same environment goes on with these settings. It fails on their
account iff it gets as far as the operator's surroundings, and the collector's secret has no
name or a store no usual address. The first of these faults is the error, and the exit code
is not that of unusable settings. -/
theorem configurationError_iff {check invocation : Invocation} {checked surroundings : Surroundings}
    {path : String} {options : StoreOptions} {found : Metadata}
    (hcheck : check.request = .checkSettings)
    (husable : (check.run checked).outcome.error = none)
    (habout : invocation.IsAbout path options)
    (hthere : surroundings.files.metadata invocation.settingsPath = .ok found)
    (hfile : surroundings.files.readText invocation.settingsPath =
      checked.files.readText check.settingsPath)
    (henvironment : surroundings.environment = checked.environment) :
    ∃ settings, (Settings.load checked.files checked.environment check.settingsPath).value =
        .ok settings
      ∧ invocation.settings surroundings = .ok settings
      ∧ ((∃ error, (invocation.run surroundings).IsConfigurationError error) ↔
          (∃ spec store, Spec.IsInput surroundings.files settings options path spec store)
            ∧ (settings.operator.collectorSecret = "" ∨ settings.operator.defaultStoreUrl = ""))
      ∧ ∀ error, (invocation.run surroundings).IsConfigurationError error →
          (invocation.run surroundings).exitCode = 1
            ∧ error = .forwarding (.setting (if settings.operator.collectorSecret = ""
              then "collector_secret_name" else "default_store_url") "must not be empty") := by
  obtain ⟨settings, hload⟩ := (Invocation.error_checkSettings_eq_none_iff hcheck).1 husable
  have hsettings : invocation.settings surroundings = .ok settings := by
    refine Settings.loadOrUsual_of_metadata hthere ?_
    rw [henvironment]
    exact Settings.load_eq_ok_of_readText hload hfile
  have hvalid := Settings.invalid?_of_load hload
  have herror : ∀ error, (invocation.run surroundings).IsConfigurationError error ↔
      (∃ spec store, Spec.IsInput surroundings.files settings options path spec store)
        ∧ ∃ field, settings.operator.emptyField? = some field
          ∧ error = .forwarding (.setting field.name "must not be empty") := by
    intro error
    rw [Invocation.isConfigurationError_iff_result habout,
      Invocation.result_eq_of_settings hsettings, Spec.normalizeFile_eq_configuration_iff]
  refine ⟨settings, hload, hsettings, ?_, fun error h => ?_⟩
  · simp only [herror, ← Settings.exists_emptyField?_operator_iff hvalid]
    constructor
    · rintro ⟨error, hinput, field, hfield, -⟩
      exact ⟨hinput, field, hfield⟩
    · rintro ⟨hinput, field, hfield⟩
      exact ⟨_, hinput, field, hfield, rfl⟩
  · obtain ⟨-, field, hfield, rfl⟩ := (herror error).1 h
    refine ⟨?_, ?_⟩
    · rw [Run.exitCode, h.1]
      rfl
    · have hwhich := (Settings.emptyField?_operator_eq_some_iff hvalid).1 hfield
      rcases hwhich with ⟨hsecret, rfl⟩ | ⟨hsecret, -, rfl⟩
      · rw [if_pos hsecret]
        rfl
      · rw [if_neg hsecret]
        rfl

/-! ### Settings next to a blank specification -/

/-- The command that checks the settings. -/
def settingsCheck : Invocation := { request := .checkSettings }

/-- The command that normalizes the blank specification. -/
def blankNormalization : Invocation := { request := .normalize "spec.yaml" {} }

/-- A settings file with a blank specification next to it. -/
def surroundingsOfSettings (text : String) : Surroundings where
  files := .ofTexts [("logfwd.toml", text), ("spec.yaml", "")]
  environment := .ofList []

theorem load_surroundingsOfSettings {text : String} {settings : Settings}
    (htext : Settings.ofText text = .ok settings) (hvalid : settings.invalid? = none)
    (heffective : settings.effective (.ofList []) = settings) :
    (Settings.load (surroundingsOfSettings text).files (surroundingsOfSettings text).environment
      settingsCheck.settingsPath).value = .ok settings := by
  have hread : (surroundingsOfSettings text).files.readText "logfwd.toml" = .ok text :=
    Files.readText_ofTexts rfl
  exact Settings.load_eq_ok_iff.2
    ⟨settings, Settings.ofFile_eq_ok_iff.2 ⟨text, hread, htext, hvalid⟩,
      heffective.symm ▸ hvalid, heffective.symm⟩

/-- With a usual address of its own, the blank specification is normalized. -/
def addressText : String := "[operator]\ndefault_store_url = \"https://es:9200\"\n"

theorem configurationError_addressText :
    (settingsCheck.run (surroundingsOfSettings addressText)).outcome.error = none
      ∧ ¬ ∃ error, (blankNormalization.run
        (surroundingsOfSettings addressText)).IsConfigurationError error := by
  have htext : Settings.ofText addressText =
    .ok { operator := { defaultStoreUrl := "https://es:9200" } } := by decide +kernel
  have hload := load_surroundingsOfSettings htext (by decide +kernel) (by decide +kernel)
  have husable := (Invocation.error_checkSettings_eq_none_iff rfl).2 ⟨_, hload⟩
  refine ⟨husable, ?_⟩
  obtain ⟨settings, hagain, -, hiff, -⟩ :=
    @configurationError_iff settingsCheck blankNormalization
      (surroundingsOfSettings addressText) (surroundingsOfSettings addressText) _ _ _ rfl husable
      (.inl rfl) rfl rfl rfl
  obtain rfl := Except.ok.inj (hload.symm.trans hagain)
  rw [hiff]
  exact fun h => absurd h.2 (by decide)

/-- Settings in which the collector's secret has no name. -/
def namelessText : String := "[operator]\ncollector_secret_name = \"\"\n"

/-- **Usable and unusable**: settings that are reported as usable, and on account of which the
blank specification is not normalized, with the exit code of any other error. -/
theorem exists_configurationError : ∃ (check invocation : Invocation)
    (surroundings : Surroundings) (path : String) (options : StoreOptions) (error : CommandError),
    check.request = .checkSettings ∧ (check.run surroundings).outcome.error = none
      ∧ invocation.IsAbout path options ∧ invocation.settingsPath = check.settingsPath
      ∧ (invocation.run surroundings).IsConfigurationError error
      ∧ (invocation.run surroundings).exitCode = 1 := by
  have htext : Settings.ofText namelessText = .ok { operator := { collectorSecret := "" } } := by
    decide +kernel
  have hload := load_surroundingsOfSettings htext (by decide +kernel) (by decide +kernel)
  have husable := (Invocation.error_checkSettings_eq_none_iff rfl).2 ⟨_, hload⟩
  have hsettings : blankNormalization.settings (surroundingsOfSettings namelessText) =
      .ok { operator := { collectorSecret := "" } } :=
    Settings.loadOrUsual_of_metadata rfl hload
  have hinput : Spec.IsInput (surroundingsOfSettings namelessText).files
      { operator := { collectorSecret := "" } } {} "spec.yaml" {} none :=
    ⟨Spec.load_ofTexts_of_blank rfl, rfl⟩
  have herror : (blankNormalization.run (surroundingsOfSettings namelessText)).outcome.error =
      some (.forwarding (.setting "collector_secret_name" "must not be empty")) := by
    rw [Invocation.error_normalize rfl, Invocation.result_eq_of_settings hsettings,
      Spec.normalizeFile_of_emptyField? hinput rfl]
    rfl
  refine ⟨settingsCheck, blankNormalization, surroundingsOfSettings namelessText, _, _, _, rfl,
    husable, .inl rfl, rfl, ⟨herror, rfl⟩, ?_⟩
  rw [Run.exitCode, herror]
  rfl

end LogForwarding
