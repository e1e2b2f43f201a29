import LogForwarding.File.Tree
import LogForwarding.Proofs.Command.Usability
import LogForwarding.Proofs.Settings.Text

/-!
# The commands about settings

There are two ways to the settings. A command about a specification goes on with the usual
settings where there is no file in the usual place. The commands about settings read the file
that they are told of, and a missing one is what they report. So they describe the settings that
a normalization goes on with in all places but that one.

What is shown of settings as text is a settings file itself, from which the same settings are
read. A report for a program leaves the settings out.

## What is proved

* `FileTree.isCoherent_files`, `Files.isCoherent_ofTexts`: file systems answer coherently.
* `Settings.loadOrUsual_eq_ok_iff`: the two ways agree where the usual file is not missing.
* `Settings.loadOrUsual_of_isMissing`: what a command about a specification goes on with where it
  is.
* `describe_settings`: what the two commands tell of the settings.
* `exists_settings_not_described`: usual settings that are reported as unusable, and different
  settings with the same report.
-/

namespace LogForwarding

/-! ### Places -/

namespace Files

/-- Whether what can be read is there. -/
def IsCoherent (files : Files) : Prop :=
  ∀ path content, files.read path = .ok content → ∃ found, files.metadata path = .ok found

theorem isCoherent_ofTexts (texts : List (String × String)) : (ofTexts texts).IsCoherent := by
  intro path content hread
  cases h : texts.lookup path with
  | none => simp [ofTexts, h] at hread
  | some text => exact ⟨⟨.file, text.utf8ByteSize⟩, by simp only [ofTexts, h]⟩

theorem readText_ne_ok {files : Files} (h : files.IsCoherent) {path : String}
    {error : FileError} (hmetadata : files.metadata path = .error error) (text : String) :
    files.readText path ≠ .ok text := by
  intro hread
  obtain ⟨content, hcontent, -⟩ := bind_eq_ok_iff.1 hread
  obtain ⟨found, hfound⟩ := h path content hcontent
  rw [hmetadata] at hfound
  cases hfound

end Files

theorem FileTree.isCoherent_files (root : FileTree) (working : List FileName) :
    (root.files working).IsCoherent := by
  intro path content hread
  obtain ⟨tree, htree, -⟩ := bind_eq_ok_iff.1 hread
  exact ⟨tree.metadata, map_eq_ok_iff.2 ⟨tree, htree, rfl⟩⟩

namespace Settings

variable {settings : Settings} {files : Files} {environment : Environment} {path : String}

/-- Whether a path is that of the usual settings file, and there is nothing under it. -/
def IsMissing (files : Files) (path : String) : Prop :=
  Path.same path usualPath ∧ files.metadata path = .error .notFound

theorem value_loadFile_eq_ok_iff : (loadFile files environment path).value = .ok settings ↔
    (load files environment path).value = .ok settings := by
  simp only [loadFile, Traced.value_bind, Traced.value_pure, mapError_eq_ok_iff]

theorem not_load_of_metadata (hfiles : files.IsCoherent) {error : FileError}
    (hmetadata : files.metadata path = .error error) :
    (load files environment path).value ≠ .ok settings := by
  intro hload
  obtain ⟨file, hfile, -⟩ := load_eq_ok_iff.1 hload
  obtain ⟨text, hread, -⟩ := ofFile_eq_ok_iff.1 hfile
  exact Files.readText_ne_ok hfiles hmetadata text hread

theorem exists_load_error_of_metadata (hfiles : files.IsCoherent) {error : FileError}
    (hmetadata : files.metadata path = .error error) :
    ∃ cause, (load files environment path).value = .error cause := by
  cases h : (load files environment path).value with
  | ok settings => exact absurd h (not_load_of_metadata hfiles hmetadata)
  | error cause => exact ⟨cause, rfl⟩

/-- **Two ways to the settings**: but for a missing file in the usual place, a command about a
specification goes on with the settings that are in the file. -/
theorem loadOrUsual_eq_ok_iff (hfiles : files.IsCoherent) (h : ¬ IsMissing files path) :
    (loadOrUsual files environment path).value = .ok settings ↔
      (load files environment path).value = .ok settings := by
  rw [← value_loadFile_eq_ok_iff]
  unfold loadOrUsual
  split_ifs with hsame
  · cases hmetadata : files.metadata path with
    | ok found => rfl
    | error error =>
      have hload := @not_load_of_metadata settings files environment path hfiles _ hmetadata
      rw [ne_eq, ← value_loadFile_eq_ok_iff] at hload
      cases error with
      | notFound => exact absurd ⟨hsame, hmetadata⟩ h
      | _ => simp [hload]
  · rfl

/-- Where the usual file is missing, a command about a specification goes on with the usual
settings and the environment's say. -/
theorem loadOrUsual_of_isMissing (h : IsMissing files path) :
    (loadOrUsual files environment path).value = .ok settings ↔
      (({} : Settings).effective environment).invalid? = none
        ∧ ({} : Settings).effective environment = settings := by
  obtain ⟨hsame, hmetadata⟩ := h
  simp only [loadOrUsual, hsame, if_true, hmetadata, usual, Traced.value_bind, Traced.value_pure,
    mapError_eq_ok_iff, finished_eq_ok_iff]

end Settings

/-! ### The two commands -/

namespace Invocation

variable {check view : Invocation} {surroundings : Surroundings} {settings : Settings}

/-- What is told of settings that are usable. -/
theorem outcome_checkSettings_of_ok (h : check.request = .checkSettings)
    (hload : (Settings.load surroundings.files surroundings.environment check.settingsPath).value =
      .ok settings) : (check.run surroundings).outcome =
        check.reported surroundings (.settingsCheck check.settingsPath true []) := by
  rw [outcome_run, perform, h]
  simp only [Traced.value_bind, checkSettings, hload, Traced.value_pure]

/-- What is told of settings that are not. -/
theorem outcome_checkSettings_of_error {error : ServiceError} (h : check.request = .checkSettings)
    (hload : (Settings.load surroundings.files surroundings.environment check.settingsPath).value =
      .error error) : (check.run surroundings).outcome =
        check.reported surroundings (.settingsCheck check.settingsPath false [error.message])
          (some (.settings "configuration is invalid")) := by
  rw [outcome_run, perform, h]
  simp only [Traced.value_bind, checkSettings, hload, Traced.value_pure]

/-- What is shown of settings. -/
theorem outcome_showSettings_of_ok (h : view.request = .showSettings none)
    (hload : (Settings.load surroundings.files surroundings.environment view.settingsPath).value =
      .ok settings) : (view.run surroundings).outcome =
        view.reported surroundings
          (.settings view.settingsPath none (Toml.write settings.toDocument)) := by
  rw [outcome_run, perform, h]
  simp only [Traced.value_bind, showSettings, hload, Settings.show, Traced.value_pure]

/-- A report of settings for a program says where they come from, and nothing of them. -/
theorem reported_settings_of_json (h : view.format = .json) {path text : String}
    {part : Option String} : view.reported surroundings (.settings path part text) =
      { output := Report.line (Json.pretty "" (.record
          ([("source", .text path)] ++ Document.optionalEntry "section" .text part))) } := by
  simp only [reported, h, Report.write, Report.toDocument]

end Invocation

/-- What stands above settings in a report for a reader. -/
def settingsHeading (surroundings : Surroundings) (path : String) : String :=
  Report.line ("Configuration (source: " ++ Text.Emphasis.bold.apply surroundings.coloured path
    ++ ")") ++ Report.line ""

/-- What the two commands about settings tell of what was found to go on with. -/
structure Describe (check view : Invocation) (surroundings : Surroundings)
    (found : Except CommandError Settings) : Prop where
  /-- Settings are reported as usable iff some were found. -/
  usable_iff : (check.run surroundings).outcome =
      check.reported surroundings (.settingsCheck check.settingsPath true []) ↔
    ∃ settings, found = .ok settings
  /-- Settings that were found are shown. -/
  shown : ∀ settings, found = .ok settings → (view.run surroundings).outcome =
    view.reported surroundings (.settings view.settingsPath none (Toml.write settings.toDocument))
  /-- A reader sees them under a heading. -/
  shown_text : ∀ settings, found = .ok settings → view.format = .text →
    (view.run surroundings).outcome =
      { output := settingsHeading surroundings view.settingsPath ++ Toml.write settings.toDocument }
  /-- The text says what they are. -/
  restored : ∀ settings, found = .ok settings →
    Settings.ofText (Toml.write settings.toDocument) = .ok settings

/-- **The commands about settings** tell of those that a command about a specification goes on
with, but for a missing file in the usual place. That is reported as a fault, whereas a command
about a specification goes on with the usual settings and the environment's say. -/
theorem describe_settings {check view : Invocation} {surroundings : Surroundings}
    (hcheck : check.request = .checkSettings) (hview : view.request = .showSettings none)
    (hpath : view.settingsPath = check.settingsPath) (hfiles : surroundings.files.IsCoherent) :
    (¬ Settings.IsMissing surroundings.files check.settingsPath →
      Describe check view surroundings (Settings.loadOrUsual surroundings.files
        surroundings.environment check.settingsPath).value)
    ∧ (Settings.IsMissing surroundings.files check.settingsPath →
      (∃ cause, (check.run surroundings).outcome =
        check.reported surroundings (.settingsCheck check.settingsPath false [cause])
          (some (.settings "configuration is invalid")))
      ∧ (check.run surroundings).exitCode = 2
      ∧ ∀ settings, (Settings.loadOrUsual surroundings.files surroundings.environment
          check.settingsPath).value = .ok settings ↔
        (({} : Settings).effective surroundings.environment).invalid? = none
          ∧ ({} : Settings).effective surroundings.environment = settings) := by
  refine ⟨fun hthere => ?_, fun hmissing => ?_⟩
  · have hload (settings : Settings) : (Settings.loadOrUsual surroundings.files
        surroundings.environment check.settingsPath).value = .ok settings ↔
          (Settings.load surroundings.files surroundings.environment
            check.settingsPath).value = .ok settings :=
      Settings.loadOrUsual_eq_ok_iff hfiles hthere
    have hshown (settings : Settings) (hsettings : (Settings.loadOrUsual surroundings.files
        surroundings.environment check.settingsPath).value = .ok settings) :
        (view.run surroundings).outcome = view.reported surroundings
          (.settings view.settingsPath none (Toml.write settings.toDocument)) := by
      rw [hload, ← hpath] at hsettings
      exact Invocation.outcome_showSettings_of_ok hview hsettings
    refine ⟨?_, hshown, fun settings hsettings hformat => ?_, fun settings _ =>
      settings.ofText_write⟩
    · simp only [hload, ← Invocation.error_checkSettings_eq_none_iff hcheck]
      constructor
      · intro houtcome
        rw [houtcome]
        rfl
      · intro herror
        obtain ⟨settings, hsettings⟩ :=
          (Invocation.error_checkSettings_eq_none_iff hcheck).1 herror
        exact Invocation.outcome_checkSettings_of_ok hcheck hsettings
    · rw [hshown settings hsettings, Invocation.reported, hformat]
      rfl
  · obtain ⟨error, herror⟩ :=
      @Settings.exists_load_error_of_metadata _ surroundings.environment _ hfiles _ hmissing.2
    have houtcome := Invocation.outcome_checkSettings_of_error hcheck herror
    refine ⟨⟨_, houtcome⟩, ?_, fun settings => Settings.loadOrUsual_of_isMissing hmissing⟩
    rw [Run.exitCode, houtcome]
    rfl

/-! ### Shown settings in a file -/

/-- The command that shows the settings. -/
def settingsView : Invocation := { request := .showSettings none }

/-- The same for a program. -/
def settingsExport : Invocation := { request := .showSettings none, format := .json }

theorem Settings.effective_ofList_nil (settings : Settings) :
    settings.effective (.ofList []) = settings := rfl

/-- Settings in the usual file, as they are shown. -/
def writtenSettings (settings : Settings) : Surroundings :=
  surroundingsOfSettings (Toml.write settings.toDocument)

/-- Settings without fault, shown as text, are a file from which they are loaded. -/
theorem load_writtenSettings {settings : Settings} (hvalid : settings.invalid? = none) :
    (Settings.load (writtenSettings settings).files (writtenSettings settings).environment
      Settings.usualPath).value = .ok settings :=
  load_surroundingsOfSettings settings.ofText_write hvalid settings.effective_ofList_nil

theorem loadOrUsual_writtenSettings {settings : Settings} (hvalid : settings.invalid? = none) :
    (Settings.loadOrUsual (writtenSettings settings).files (writtenSettings settings).environment
      Settings.usualPath).value = .ok settings :=
  Settings.loadOrUsual_of_metadata rfl (load_writtenSettings hvalid)

/-- Settings with a multi tenant store, and with a directory that is hard to quote. -/
def quotedSettings : Settings :=
  { store := .lokiStack "loki", secretsDirectory := "/etc/\"logs\" of\t'today'\n\"\"\"" }

/-- No files at all. -/
def bareSurroundings : Surroundings := { files := .ofTexts [], environment := .ofList [] }

theorem isMissing_bareSurroundings :
    Settings.IsMissing bareSurroundings.files Settings.usualPath :=
  ⟨by simp [Path.same], rfl⟩

theorem describe_quotedSettings :
    (writtenSettings quotedSettings).files.IsCoherent
      ∧ Describe settingsCheck settingsView (writtenSettings quotedSettings) (.ok quotedSettings)
      ∧ bareSurroundings.files.IsCoherent
      ∧ (settingsCheck.run bareSurroundings).exitCode = 2 := by
  have hwritten : (writtenSettings quotedSettings).files.IsCoherent := Files.isCoherent_ofTexts _
  have hbare : bareSurroundings.files.IsCoherent := Files.isCoherent_ofTexts []
  have hthere : ¬ Settings.IsMissing (writtenSettings quotedSettings).files Settings.usualPath :=
    fun h => absurd h.2 nofun
  have hdescribe := (@describe_settings settingsCheck settingsView _ rfl rfl rfl hwritten).1 hthere
  have hcode := ((@describe_settings settingsCheck settingsView _ rfl rfl rfl hbare).2
    isMissing_bareSurroundings).2.1
  rw [show settingsCheck.settingsPath = Settings.usualPath from rfl,
    loadOrUsual_writtenSettings (by decide)] at hdescribe
  exact ⟨hwritten, hdescribe, hbare, hcode⟩

/-- **Two things that are not told**: a missing file in the usual place is reported as a fault,
although a command about a specification goes on with the usual settings; and a report for a
program is the same for different settings. -/
theorem exists_settings_not_described :
    (∃ (check : Invocation) (surroundings : Surroundings) (settings : Settings),
      check.request = .checkSettings ∧ surroundings.files.IsCoherent
        ∧ (Settings.loadOrUsual surroundings.files surroundings.environment
            check.settingsPath).value = .ok settings
        ∧ (check.run surroundings).outcome.error ≠ none)
    ∧ ∃ (view : Invocation) (first second : Surroundings) (settings other : Settings),
      view.request = .showSettings none
        ∧ (Settings.loadOrUsual first.files first.environment view.settingsPath).value =
            .ok settings
        ∧ (Settings.loadOrUsual second.files second.environment view.settingsPath).value =
            .ok other
        ∧ settings ≠ other ∧ (view.run first).outcome = (view.run second).outcome := by
  have hbare : bareSurroundings.files.IsCoherent := Files.isCoherent_ofTexts []
  refine ⟨⟨settingsCheck, bareSurroundings, {}, rfl, hbare, ?_, ?_⟩,
    ⟨settingsExport, writtenSettings {}, writtenSettings quotedSettings, {}, quotedSettings, rfl,
      loadOrUsual_writtenSettings (by decide), loadOrUsual_writtenSettings (by decide),
      by decide, ?_⟩⟩
  · exact (Settings.loadOrUsual_of_isMissing isMissing_bareSurroundings).2 ⟨by decide, rfl⟩
  · rw [ne_eq, Invocation.error_checkSettings_eq_none_iff rfl]
    rintro ⟨settings, hload⟩
    exact Settings.not_load_of_metadata hbare rfl hload
  · have hfirst := @Invocation.outcome_showSettings_of_ok settingsExport _ _ rfl
      (@load_writtenSettings {} (by decide))
    have hsecond := @Invocation.outcome_showSettings_of_ok settingsExport _ _ rfl
      (@load_writtenSettings quotedSettings (by decide))
    rw [hfirst, hsecond, Invocation.reported_settings_of_json rfl,
      Invocation.reported_settings_of_json rfl]

end LogForwarding
