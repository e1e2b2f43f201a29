import LogForwarding.Document.Settings
import LogForwarding.Proofs.Document.Records
import LogForwarding.Proofs.Toml.Sections
import LogForwarding.Settings.File

/-!
# Settings and their texts

The text that is written of settings is a settings file: what is read of it are the settings
that were written, whatever characters their values are made of.

## What is proved

* `Settings.reader_toDocument`: settings are read back from their document.
* `Settings.ofText_write`: settings are read back from their text.
-/

namespace LogForwarding

variable {dialect : Dialect}

/-! ### Documents -/

theorem LogSettings.reader_toDocument (log : LogSettings) :
    LogSettings.reader dialect log.toDocument = .ok log := rfl

theorem Store.sectionReader_toSection (store : Store) :
    Store.sectionReader dialect store.toSection = .ok store := by
  obtain ⟨kind, name, endpoint⟩ := store
  cases kind <;> rfl

theorem Operator.sectionReader_toDocument (operator : Operator) :
    Operator.sectionReader dialect operator.toDocument = .ok operator := rfl

namespace Settings

theorem secretsReader_secretsSection (settings other : Settings) :
    secretsReader dialect other settings.secretsSection =
      .ok { other with secretsDirectory := settings.secretsDirectory } := rfl

/-- Settings are read back from their document. -/
theorem reader_toDocument (settings : Settings) :
    reader dialect settings.toDocument = .ok settings := by
  simp [reader, toDocument, sections, Reader.recordOfEntries, LogSettings.reader_toDocument,
    Store.sectionReader_toSection, Operator.sectionReader_toDocument, secretsReader_secretsSection]

/-! ### Texts -/

/-- All values of settings, in their sections. -/
def textSections (settings : Settings) : Toml.TextSections :=
  [("general", [("log_level", settings.log.level), ("log_format", settings.log.format)]),
    ("log_store", [("type", settings.store.kind.name), ("name", settings.store.name),
      ("service_endpoint", settings.store.serviceEndpoint)]),
    ("operator", [("namespace", settings.operator.operatorNamespace),
      ("collector_secret_name", settings.operator.collectorSecret),
      ("default_store_url", settings.operator.defaultStoreUrl)]),
    ("secrets", [("dir", settings.secretsDirectory)])]

theorem toDocument_eq_sectionsDocument (settings : Settings) :
    settings.toDocument = Toml.sectionsDocument settings.textSections := rfl

theorem isPlain_textSections (settings : Settings) : Toml.IsPlain settings.textSections := by
  refine ⟨⟨?_, ?_⟩, ?_⟩
  · simp only [textSections, List.map_cons, List.map_nil]
    decide
  · simp only [textSections, List.map_cons, List.map_nil]
    decide
  · simp only [textSections, List.forall_mem_cons, List.map_cons, List.map_nil]
    refine ⟨⟨?_, ?_⟩, ⟨?_, ?_⟩, ⟨?_, ?_⟩, ⟨?_, ?_⟩, List.forall_mem_nil _⟩ <;> decide

/-- **Settings are read back** from their text. -/
theorem ofText_write (settings : Settings) :
    ofText (Toml.write settings.toDocument) = .ok settings := by
  have hread := Toml.read_write settings.isPlain_textSections
  rw [← toDocument_eq_sectionsDocument] at hread
  simp only [ofText, hread, reader_toDocument]

end Settings

end LogForwarding
