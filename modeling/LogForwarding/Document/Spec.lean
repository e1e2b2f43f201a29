import LogForwarding.Document.Shape
import LogForwarding.Spec
import LogForwarding.Store

/-!
# Specifications as documents

Every part of a specification has a document form, a map with a fixed key for each
field. Writing leaves out what is absent, and empty texts and labels where an empty
value means the same as none; reading accepts missing fields for the same reason, and
`endpoint` for an output's `url`.
-/

namespace LogForwarding

namespace Document

/-- An entry that is left out if there is no value. -/
def optionalEntry {α : Type} (key : String) (write : α → Document) (value : Option α) :
    List (String × Document) :=
  value.toList.map fun value => (key, write value)

/-- An entry that is left out if the text is empty. -/
def textEntry (key value : String) : List (String × Document) :=
  if value.isEmpty then [] else [(key, text value)]

/-- A list of texts. -/
def texts (values : List String) : Document := list (values.map text)

end Document

open Document (optionalEntry textEntry)

/-- An output kind is written as its name. -/
def OutputKind.toDocument (kind : OutputKind) : Document := .text kind.name

/-- Reads an output kind. -/
def OutputKind.reader : Reader OutputKind := fun document =>
  OutputKind.ofName <$> Reader.text document

/-- The document of a secret reference. -/
def SecretRef.toDocument (ref : SecretRef) : Document :=
  .record [("name", .text ref.name)]

/-- Reads a secret reference. -/
def SecretRef.reader (dialect : Dialect) : Reader SecretRef :=
  Reader.record dialect "OutputSecretSpec"
    [.of "name" Reader.text fun ref name => { ref with name }] {}

/-- The document of Elasticsearch settings. -/
def Tuning.toDocument (tuning : Tuning) : Document :=
  .record (textEntry "structuredTypeKey" tuning.structuredTypeKey
    ++ textEntry "structuredTypeName" tuning.structuredTypeName
    ++ [("enableStructuredContainerLogs", .bool tuning.enableStructuredContainerLogs)])

/-- Reads Elasticsearch settings. -/
def Tuning.reader (dialect : Dialect) : Reader Tuning :=
  Reader.record dialect "ElasticsearchTuning"
    [.of "structuredTypeKey" Reader.text fun tuning structuredTypeKey =>
        { tuning with structuredTypeKey },
      .of "structuredTypeName" Reader.text fun tuning structuredTypeName =>
        { tuning with structuredTypeName },
      .of "enableStructuredContainerLogs" Reader.bool fun tuning enableStructuredContainerLogs =>
        { tuning with enableStructuredContainerLogs }] {}

/-- The document of an output. -/
def Output.toDocument (output : Output) : Document :=
  .record ([("name", .text output.name), ("type", output.kind.toDocument),
      ("url", .text output.url)]
    ++ optionalEntry "secret" SecretRef.toDocument output.secret
    ++ optionalEntry "elasticsearch" Tuning.toDocument output.elasticsearch)

/-- Reads an output. -/
def Output.reader (dialect : Dialect) : Reader Output :=
  Reader.record dialect "OutputSpec"
    [.of "name" Reader.text fun output name => { output with name },
      .of "type" OutputKind.reader fun output kind => { output with kind },
      { Field.of "url" Reader.text fun (output : Output) url => { output with url } with
        otherName := some "endpoint" },
      .of "secret" (Reader.option (SecretRef.reader dialect)) fun output secret =>
        { output with secret },
      .of "elasticsearch" (Reader.option (Tuning.reader dialect)) fun output elasticsearch =>
        { output with elasticsearch }] {}

/-- The document of labels. -/
def Labels.toDocument (labels : Dictionary String) : Document :=
  .record (labels.entries.map fun (key, value) => (key, .text value))

/-- The document of a pipeline. -/
def Pipeline.toDocument (pipeline : Pipeline) : Document :=
  .record (textEntry "name" pipeline.name
    ++ [("inputRefs", .texts pipeline.inputRefs), ("outputRefs", .texts pipeline.outputRefs)]
    ++ (if pipeline.labels.isEmpty then [] else [("labels", Labels.toDocument pipeline.labels)])
    ++ optionalEntry "parse" .text pipeline.parse)

/-- Reads a pipeline. -/
def Pipeline.reader (dialect : Dialect) : Reader Pipeline :=
  Reader.record dialect "PipelineSpec"
    [.of "name" Reader.text fun pipeline name => { pipeline with name },
      .of "inputRefs" (Reader.list dialect Reader.text) fun pipeline inputRefs =>
        { pipeline with inputRefs },
      .of "outputRefs" (Reader.list dialect Reader.text) fun pipeline outputRefs =>
        { pipeline with outputRefs },
      .of "labels" (Reader.textEntries dialect) fun pipeline entries =>
        { pipeline with labels := .ofList entries },
      .of "parse" (Reader.option Reader.text) fun pipeline parse => { pipeline with parse }] {}

/-- The document of a source of application logs. -/
def ApplicationSource.toDocument (source : ApplicationSource) : Document :=
  .record [("namespaces", .texts source.namespaces)]

/-- Reads a source of application logs. -/
def ApplicationSource.reader (dialect : Dialect) : Reader ApplicationSource :=
  Reader.record dialect "ApplicationSource"
    [.of "namespaces" (Reader.list dialect Reader.text) fun source namespaces =>
      { source with namespaces }] {}

/-- Reads a source that has no settings: whether it is there. -/
def Input.markReader (dialect : Dialect) (name : String) : Reader Bool := fun document =>
  Option.isSome <$> Reader.option (Reader.record dialect name [] ()) document

/-- An entry for a source without settings. -/
def Input.markEntry (key : String) (present : Bool) : List (String × Document) :=
  if present then [(key, .record [])] else []

/-- The document of an input. -/
def Input.toDocument (input : Input) : Document :=
  .record ([("name", .text input.name)]
    ++ optionalEntry "application" ApplicationSource.toDocument input.application
    ++ markEntry "infrastructure" input.infrastructure
    ++ markEntry "audit" input.audit)

/-- Reads an input. -/
def Input.reader (dialect : Dialect) : Reader Input :=
  Reader.record dialect "InputSpec"
    [.of "name" Reader.text fun input name => { input with name },
      .of "application" (Reader.option (ApplicationSource.reader dialect))
        fun input application => { input with application },
      .of "infrastructure" (markReader dialect "InfrastructureSource")
        fun input infrastructure => { input with infrastructure },
      .of "audit" (markReader dialect "AuditSource") fun input audit => { input with audit }] {}

/-- The document of output defaults. -/
def OutputDefaults.toDocument (defaults : OutputDefaults) : Document :=
  .record (optionalEntry "elasticsearch" Tuning.toDocument defaults.elasticsearch)

/-- Reads output defaults. -/
def OutputDefaults.reader (dialect : Dialect) : Reader OutputDefaults :=
  Reader.record dialect "OutputDefaults"
    [.of "elasticsearch" (Reader.option (Tuning.reader dialect)) fun defaults elasticsearch =>
      { defaults with elasticsearch }] {}

/-- The document of a specification. -/
def Spec.toDocument (spec : Spec) : Document :=
  .record ([("outputs", .list (spec.outputs.map (·.toDocument))),
      ("pipelines", .list (spec.pipelines.map (·.toDocument))),
      ("inputs", .list (spec.inputs.map (·.toDocument))),
      ("disableDefaultForwarding", .bool spec.disableDefaultForwarding)]
    ++ optionalEntry "outputDefaults" OutputDefaults.toDocument spec.outputDefaults)

/-- Reads a specification. -/
def Spec.reader (dialect : Dialect) : Reader Spec :=
  Reader.record dialect "ForwardingSpec"
    [.of "outputs" (Reader.list dialect (Output.reader dialect)) fun spec outputs =>
        { spec with outputs },
      .of "pipelines" (Reader.list dialect (Pipeline.reader dialect)) fun spec pipelines =>
        { spec with pipelines },
      .of "inputs" (Reader.list dialect (Input.reader dialect)) fun spec inputs =>
        { spec with inputs },
      .of "disableDefaultForwarding" Reader.bool fun spec disableDefaultForwarding =>
        { spec with disableDefaultForwarding },
      .of "outputDefaults" (Reader.option (OutputDefaults.reader dialect))
        fun spec outputDefaults => { spec with outputDefaults }] {}

/-- The document of a kind of store. -/
def StoreKind.toDocument (kind : StoreKind) : Document := .text kind.name

/-- Reads a kind of store. -/
def StoreKind.reader (dialect : Dialect) : Reader StoreKind :=
  Reader.variant dialect (StoreKind.all.map fun kind => (kind.name, kind))

/-- The document of a store. -/
def Store.toDocument (store : Store) : Document :=
  .record [("type", store.kind.toDocument), ("name", .text store.name),
    ("serviceEndpoint", .text store.serviceEndpoint)]

/-- Reads a store. -/
def Store.reader (dialect : Dialect) : Reader Store :=
  Reader.record dialect "LogStoreSpec"
    [.of "type" (StoreKind.reader dialect) fun store kind => { store with kind },
      .of "name" Reader.text fun store name => { store with name },
      .of "serviceEndpoint" Reader.text fun store serviceEndpoint =>
        { store with serviceEndpoint }] {}

end LogForwarding
