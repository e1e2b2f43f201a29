import LogForwarding.Document.Spec
import LogForwarding.Settings

/-!
# Settings as documents

Settings are written in sections, each a map with fixed keys. All sections and all of
their keys may be missing; what is missing has its usual value.
-/

namespace LogForwarding

/-- The document of what the operator provides. -/
def Operator.toDocument (operator : Operator) : Document :=
  .record [(Field.operatorNamespace.name, .text operator.operatorNamespace),
    (Field.collectorSecret.name, .text operator.collectorSecret),
    (Field.defaultStoreUrl.name, .text operator.defaultStoreUrl)]

/-- The fields of the operator's section. -/
def Operator.fields (required : Bool) : List (LogForwarding.Field Operator) :=
  [{ LogForwarding.Field.of Field.operatorNamespace.name Reader.text
        fun (operator : Operator) operatorNamespace => { operator with operatorNamespace } with
      required },
    { LogForwarding.Field.of Field.collectorSecret.name Reader.text
        fun (operator : Operator) collectorSecret => { operator with collectorSecret } with
      required },
    { LogForwarding.Field.of Field.defaultStoreUrl.name Reader.text
        fun (operator : Operator) defaultStoreUrl => { operator with defaultStoreUrl } with
      required }]

/-- Reads what the operator provides, all of which has to be there. -/
def Operator.reader (dialect : Dialect) : Reader Operator :=
  Reader.record dialect "NormalizerConfig" (fields true) {}

/-- Reads the operator's section of settings. -/
def Operator.sectionReader (dialect : Dialect) : Reader Operator :=
  Reader.record dialect "OperatorConfig" (fields false) {}

/-- The section about the log. -/
def LogSettings.toDocument (log : LogSettings) : Document :=
  .record [("log_level", .text log.level), ("log_format", .text log.format)]

/-- Reads the section about the log. -/
def LogSettings.reader (dialect : Dialect) : Reader LogSettings :=
  Reader.record dialect "GeneralConfig"
    [.of "log_level" Reader.text fun log level => { log with level },
      .of "log_format" Reader.text fun log format => { log with format }] {}

/-- The section about the log store. -/
def Store.toSection (store : Store) : Document :=
  .record [("type", store.kind.toDocument), ("name", .text store.name),
    ("service_endpoint", .text store.serviceEndpoint)]

/-- Reads the section about the log store. -/
def Store.sectionReader (dialect : Dialect) : Reader Store :=
  Reader.record dialect "LogStoreConfig"
    [.of "type" (StoreKind.reader dialect) fun store kind => { store with kind },
      .of "name" Reader.text fun store name => { store with name },
      .of "service_endpoint" Reader.text fun store serviceEndpoint =>
        { store with serviceEndpoint }] {}

namespace Settings

/-- The section about secrets. -/
def secretsSection (settings : Settings) : Document :=
  .record [("dir", .text settings.secretsDirectory)]

/-- Reads the section about secrets into settings. -/
def secretsReader (dialect : Dialect) (settings : Settings) : Reader Settings :=
  Reader.record dialect "SecretsConfig"
    [.of "dir" Reader.text fun (settings : Settings) secretsDirectory =>
      { settings with secretsDirectory }] settings

/-- The sections of settings by their names. -/
def sections (settings : Settings) : List (String × Document) :=
  [("general", settings.log.toDocument), ("log_store", settings.store.toSection),
    ("operator", settings.operator.toDocument), ("secrets", settings.secretsSection)]

/-- The document of settings. -/
def toDocument (settings : Settings) : Document := .record settings.sections

/-- Reads settings. -/
def reader (dialect : Dialect) : Reader Settings :=
  Reader.record dialect "LogfwdConfig"
    [.of "general" (LogSettings.reader dialect) fun settings log => { settings with log },
      .of "log_store" (Store.sectionReader dialect) fun settings store => { settings with store },
      .of "operator" (Operator.sectionReader dialect) fun settings operator =>
        { settings with operator },
      { name := "secrets"
        read := fun document settings => secretsReader dialect settings document }] {}

end Settings

end LogForwarding
