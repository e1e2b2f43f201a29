import LogForwarding.Command.Run
import LogForwarding.Proofs.Settings.Precedence

/-!
# How a command ends

A command about a specification ends in an error of one of four sources: its settings, the
file of the specification, the normalization, and for `validate` the verdict on the result.
Here the end of a run is told from these alone, whatever it logs and reports.

## What is proved

* `Invocation.outcome_run`: a run ends as its command does. The log never stands in the way.
* `Spec.value_normalizeFile`, `Spec.normalizeFile_of_not_isInput`: what comes of a
  specification file.
* `Invocation.error_normalize`, `Invocation.error_validate`: the errors of the two commands
  about specifications.
* `Invocation.error_checkSettings_eq_none_iff`: when the settings are reported as usable.
-/

namespace LogForwarding

/-! ### Settings -/

namespace Settings

variable {settings : Settings} {files : Files} {environment : Environment} {path : String}

/-- Settings that a command goes on with are without fault. -/
theorem invalid?_of_loadOrUsual
    (h : (loadOrUsual files environment path).value = .ok settings) :
    settings.invalid? = none := by
  have hload : (loadFile files environment path).value = .ok settings →
      settings.invalid? = none := by
    simp only [loadFile, Traced.value_bind, Traced.value_pure, mapError_eq_ok_iff]
    exact invalid?_of_load
  have husual : (usual environment path).value = .ok settings → settings.invalid? = none := by
    simp only [usual, Traced.value_bind, Traced.value_pure, mapError_eq_ok_iff, finished_eq_ok_iff]
    rintro ⟨hvalid, rfl⟩
    exact hvalid
  unfold loadOrUsual at h
  split at h
  · split at h
    · exact husual h
    · exact absurd h nofun
    · exact hload h
  · exact hload h

/-- Without a file in the usual place, the usual settings hold. -/
theorem loadOrUsual_of_notFound (h : files.metadata usualPath = .error .notFound) :
    loadOrUsual files environment usualPath = usual environment usualPath := by
  simp [loadOrUsual, Path.same, h]

/-- Where there is something under the path, the settings are loaded from there. -/
theorem loadOrUsual_of_metadata {found : Metadata} (hthere : files.metadata path = .ok found)
    (h : (load files environment path).value = .ok settings) :
    (loadOrUsual files environment path).value = .ok settings := by
  have hload : (loadFile files environment path).value = .ok settings := by
    simp only [loadFile, Traced.value_bind, Traced.value_pure, mapError_eq_ok_iff, h]
  unfold loadOrUsual
  rw [hthere]
  split_ifs <;> exact hload

/-- Settings without fault name a log format that there is. -/
theorem exists_logFormat (h : settings.invalid? = none) :
    ∃ format, LogFormat.ofName? settings.log.format = some format := by
  have hformat := (invalid?_eq_none_iff.1 h).2.1
  simp only [logFormats, List.mem_cons, List.not_mem_nil, or_false] at hformat
  rcases hformat with hjson | hpretty
  · exact ⟨.json, by rw [hjson]; rfl⟩
  · exact ⟨.pretty, by rw [hpretty]; rfl⟩

/-- Loading depends on a file system through the text of the file only. -/
theorem load_eq_ok_of_readText {other : Files} {elsewhere : String}
    (h : (load files environment path).value = .ok settings)
    (hsame : other.readText elsewhere = files.readText path) :
    (load other environment elsewhere).value = .ok settings := by
  obtain ⟨file, hfile, hrest⟩ := load_eq_ok_iff.1 h
  obtain ⟨text, hread, htext, hvalid⟩ := ofFile_eq_ok_iff.1 hfile
  exact load_eq_ok_iff.2
    ⟨file, ofFile_eq_ok_iff.2 ⟨text, hsame.trans hread, htext, hvalid⟩, hrest⟩

end Settings

/-! ### Normalizing a file -/

namespace Operator

variable {operator other : Operator}

theorem checked_eq_ok_iff : operator.checked = .ok other ↔
    operator.emptyField? = none ∧ operator = other := by
  unfold checked
  cases operator.emptyField? <;> simp

theorem checked_eq_error_iff {error : ForwardingError} : operator.checked = .error error ↔
    ∃ field, operator.emptyField? = some field
      ∧ error = .setting field.name "must not be empty" := by
  unfold checked
  cases operator.emptyField? <;> simp [eq_comm]

end Operator

theorem StoreOptions.exists_request_of_resolve {options : StoreOptions} {settings : Settings}
    {error : CommandError} (h : options.resolve settings = .error error) :
    ∃ reason, error = .request reason := by
  unfold resolve kind at h
  cases hstore : options.store with
  | none => simp [hstore, bind, Except.bind, pure, Except.pure] at h
  | some typed =>
    cases hkind : StoreKind.ofTyped? typed with
    | none =>
      simp only [hstore, hkind, bind, Except.bind, Except.error.injEq] at h
      exact ⟨_, h.symm⟩
    | some kind => simp [hstore, hkind, bind, Except.bind, pure, Except.pure] at h

namespace Spec

variable {files : Files} {settings : Settings} {options : StoreOptions} {path : String}

theorem exists_specLoad_of_readFile {error : ForwardingError}
    (h : readFile files path = .error error) : ∃ reason, error = .specLoad path reason := by
  unfold readFile at h
  split at h
  · exact ⟨_, (Except.error.inj h).symm⟩
  · split_ifs at h
    · exact ⟨_, (Except.error.inj h).symm⟩
    · split at h
      · exact ⟨_, (Except.error.inj h).symm⟩
      · exact absurd h nofun

theorem exists_specLoad_of_ofText {format : SpecFormat} {text : String} {error : ForwardingError}
    (h : ofText format path text = .error error) : ∃ reason, error = .specLoad path reason := by
  unfold ofText at h
  split_ifs at h
  split at h
  · exact ⟨_, (Except.error.inj h).symm⟩
  · split at h
    · exact absurd h nofun
    · exact ⟨_, (Except.error.inj h).symm⟩

theorem exists_specLoad_of_load {error : ForwardingError}
    (h : (load files path).value = .error error) : ∃ reason, error = .specLoad path reason := by
  unfold load at h
  cases hread : readFile files path with
  | error cause =>
    simp only [hread, bind, Except.bind, Except.error.injEq] at h
    exact exists_specLoad_of_readFile (h ▸ hread)
  | ok text =>
    cases htext : ofText (.ofPath path) path text with
    | error cause =>
      simp only [hread, htext, bind, Except.bind, Except.error.injEq] at h
      exact exists_specLoad_of_ofText (h ▸ htext)
    | ok spec => simp [hread, htext, bind, Except.bind] at h

/-- A blank file holds the empty specification. -/
theorem load_ofTexts_of_blank {texts : List (String × String)}
    (h : texts.lookup path = some "") : (load (.ofTexts texts) path).value = .ok {} := by
  have hread : readFile (.ofTexts texts) path = .ok "" := by
    have hmetadata : (Files.ofTexts texts).metadata path = .ok ⟨.file, 0⟩ := by
      simp only [Files.ofTexts, h]
      rfl
    simp [readFile, hmetadata, Files.readText_ofTexts h]
  simp [load, hread, ofText, bind, Except.bind]

/-- What a command normalizes, if the operator's surroundings are usable: the specification
in a file, for the log store of the settings and the command line. -/
structure IsInput (files : Files) (settings : Settings) (options : StoreOptions) (path : String)
    (spec : Spec) (store : Option Store) : Prop where
  /-- The file holds the specification. -/
  load : (Spec.load files path).value = .ok spec
  /-- The log store is that of the settings and the command line. -/
  resolve : options.resolve settings = .ok store

/-- The secrets of a command: those in the directory of the command line or the settings. -/
def commandLookup (files : Files) (settings : Settings) (options : StoreOptions) : SecretLookup :=
  SecretDirectory.lookup files (options.secretsDirectory.getD settings.secretsDirectory)

variable {spec : Spec} {store : Option Store}

theorem value_normalizeFile (h : IsInput files settings options path spec store) :
    (normalizeFile files settings options path).value =
      match settings.operator.checked with
      | .error error => .error (.forwarding error)
      | .ok operator =>
        (spec.normalize store (commandLookup files settings options) operator).value.mapError
          .forwarding := by
  unfold normalizeFile
  simp only [Traced.value_bind, h.load, h.resolve]
  cases settings.operator.checked <;> rfl

/-- Nothing is normalized for an operator whose surroundings are unusable. -/
theorem normalizeFile_of_emptyField? {field : Operator.Field}
    (h : IsInput files settings options path spec store)
    (hempty : settings.operator.emptyField? = some field) :
    (normalizeFile files settings options path).value =
      .error (.forwarding (.setting field.name "must not be empty")) := by
  rw [value_normalizeFile h, Operator.checked_eq_error_iff.2 ⟨field, hempty, rfl⟩]

/-- Whatever comes before the normalization of a file ends it in an error about the file or
about the command line. -/
theorem normalizeFile_of_not_isInput
    (h : ¬ ∃ spec store, IsInput files settings options path spec store) :
    ∃ error, (normalizeFile files settings options path).value = .error error
      ∧ ((∃ reason, error = .forwarding (.specLoad path reason))
        ∨ ∃ reason, error = .request reason) := by
  unfold normalizeFile
  simp only [Traced.value_bind]
  cases hload : (load files path).value with
  | error error =>
    obtain ⟨reason, rfl⟩ := exists_specLoad_of_load hload
    exact ⟨_, rfl, Or.inl ⟨reason, rfl⟩⟩
  | ok spec =>
    cases hresolve : options.resolve settings with
    | error error =>
      obtain ⟨reason, rfl⟩ := StoreOptions.exists_request_of_resolve hresolve
      exact ⟨_, rfl, Or.inr ⟨reason, rfl⟩⟩
    | ok store => exact absurd ⟨spec, store, hload, hresolve⟩ h

end Spec

/-! ### The end of a run -/

namespace Invocation

variable {invocation : Invocation} {surroundings : Surroundings} {path : String}
  {options : StoreOptions}

/-- The settings that a command goes on with. -/
def settings (invocation : Invocation) (surroundings : Surroundings) :
    Except CommandError Settings :=
  (Settings.loadOrUsual surroundings.files surroundings.environment invocation.settingsPath).value

/-- **A run ends as its command does**: the log format of its settings is always known. -/
theorem outcome_run (invocation : Invocation) (surroundings : Surroundings) :
    (invocation.run surroundings).outcome =
      (invocation.perform surroundings (invocation.settings surroundings)).value := by
  have hformat : ∃ format, LogFormat.ofName?
      (invocation.logSettings (invocation.settings surroundings)).format = some format := by
    unfold logSettings
    cases hsettings : invocation.settings surroundings with
    | ok settings => exact Settings.exists_logFormat (Settings.invalid?_of_loadOrUsual hsettings)
    | error error => exact ⟨.json, rfl⟩
  obtain ⟨format, hformat⟩ := hformat
  unfold settings at hformat ⊢
  -- the body as it stands: its equation lemma takes seconds to derive
  delta run
  simp only [hformat]

/-- The result of the normalization that a command about a specification starts with. -/
def result (invocation : Invocation) (surroundings : Surroundings) (path : String)
    (options : StoreOptions) : Except CommandError Normalized :=
  (normalized surroundings (invocation.settings surroundings) path options).value

theorem result_eq_of_settings {settings : Settings}
    (h : invocation.settings surroundings = .ok settings) :
    invocation.result surroundings path options =
      (Spec.normalizeFile surroundings.files settings options path).value := by
  unfold result normalized
  rw [h]

theorem error_normalize (h : invocation.request = .normalize path options) :
    (invocation.run surroundings).outcome.error =
      match invocation.result surroundings path options with
      | .error error => some error
      | .ok _ => none := by
  rw [outcome_run, perform, h]
  unfold result
  simp only [Traced.value_bind, normalize]
  cases (normalized surroundings (invocation.settings surroundings) path options).value <;> rfl

theorem error_validate (h : invocation.request = .validate path options) :
    (invocation.run surroundings).outcome.error =
      match invocation.result surroundings path options with
      | .error error => some error
      | .ok found =>
        if found.status.isFullyAccepted then none else some (.ofSummary found.status.summary) := by
  rw [outcome_run, perform, h]
  unfold result
  simp only [Traced.value_bind, validate]
  cases (normalized surroundings (invocation.settings surroundings) path options).value <;> rfl

/-- The settings are reported as usable iff they can be loaded. -/
theorem error_checkSettings_eq_none_iff (h : invocation.request = .checkSettings) :
    (invocation.run surroundings).outcome.error = none ↔
      ∃ settings, (Settings.load surroundings.files surroundings.environment
        invocation.settingsPath).value = .ok settings := by
  rw [outcome_run, perform, h]
  simp only [Traced.value_bind, checkSettings]
  cases (Settings.load surroundings.files surroundings.environment
    invocation.settingsPath).value <;> simp [reported]

end Invocation

end LogForwarding
