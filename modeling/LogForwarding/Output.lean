/-!
# Outputs

An output is a place that logs are sent to: a name that pipelines refer to, the
kind of system that receives the logs, its address, and, where the system asks for
them, a secret and settings of its own.

`OutputKind.ofName` reads a kind from its written name. A name that is not one of
the seven known ones is kept as it was written, so that a report can quote it;
`OutputKind.name_ofName` says that no name is lost.
-/

namespace LogForwarding

/-- The kind of system that an output sends logs to. -/
inductive OutputKind where
  /-- An Elasticsearch server, also the kind of a single tenant log store. -/
  | elasticsearch
  /-- A server that speaks the Fluentd forward protocol. -/
  | fluentdForward
  /-- A syslog server. -/
  | syslog
  /-- A Loki server, also the kind of one tenant of a multi tenant log store. -/
  | loki
  /-- A Kafka broker. -/
  | kafka
  /-- The CloudWatch Logs service. -/
  | cloudwatch
  /-- A plain HTTP endpoint. -/
  | http
  /-- Any other written name, the empty one included. -/
  | unrecognized (written : String)
  deriving DecidableEq, Repr

namespace OutputKind

instance : Inhabited OutputKind := ⟨.unrecognized ""⟩

/-- The name that stands for a kind in a specification. -/
def name : OutputKind → String
  | elasticsearch => "elasticsearch"
  | fluentdForward => "fluentdForward"
  | syslog => "syslog"
  | loki => "loki"
  | kafka => "kafka"
  | cloudwatch => "cloudwatch"
  | http => "http"
  | unrecognized written => written

/-- The kind that a written name stands for. Case matters. -/
def ofName (written : String) : OutputKind :=
  match written with
  | "elasticsearch" => elasticsearch
  | "fluentdForward" => fluentdForward
  | "syslog" => syslog
  | "loki" => loki
  | "kafka" => kafka
  | "cloudwatch" => cloudwatch
  | "http" => http
  | other => unrecognized other

/-- Whether a kind is one of the known systems. -/
def isRecognized : OutputKind → Bool
  | unrecognized _ => false
  | _ => true

/-- Whether no kind was written at all. -/
def isMissing : OutputKind → Bool
  | unrecognized written => written.isEmpty
  | _ => false

/-- Reading a name and writing it again gives the name back. -/
@[simp] theorem name_ofName (written : String) : (ofName written).name = written := by
  unfold ofName
  split <;> simp [name]

/-- A known kind is read back from its own name. -/
theorem ofName_name_of_isRecognized {kind : OutputKind} (h : kind.isRecognized) :
    ofName kind.name = kind := by
  cases kind <;> simp_all [isRecognized, ofName, name]

end OutputKind

/-- A reference to a secret by its name. -/
structure SecretRef where
  /-- The secret's name. -/
  name : String := ""
  deriving DecidableEq, Repr, Inhabited

/-- Settings that only an Elasticsearch output has. -/
structure Tuning where
  /-- The record field whose value names the index of a structured record. -/
  structuredTypeKey : String := ""
  /-- The index of a structured record that lacks that field. -/
  structuredTypeName : String := ""
  /-- Whether each container may send structured logs of its own. -/
  enableStructuredContainerLogs : Bool := false
  deriving DecidableEq, Repr, Inhabited

/-- A place that logs are sent to. -/
structure Output where
  /-- The name that pipelines refer to. -/
  name : String := ""
  /-- The kind of the receiving system. -/
  kind : OutputKind := .unrecognized ""
  /-- The address of the receiving system. -/
  url : String := ""
  /-- The secret used to connect, if one is named. -/
  secret : Option SecretRef := none
  /-- Elasticsearch settings, if any are given. -/
  elasticsearch : Option Tuning := none
  deriving DecidableEq, Repr, Inhabited

namespace Output

/-- The output that connects with the secret of the given name. -/
def withSecret (output : Output) (secret : String) : Output :=
  { output with secret := some ⟨secret⟩ }

/-- The name of the secret that has to be looked up for an output: the one it
refers to, unless that name is empty. -/
def secretName? (output : Output) : Option String :=
  match output.secret with
  | some ref => if ref.name.isEmpty then none else some ref.name
  | none => none

end Output

end LogForwarding
