import LogForwarding.Spec
import LogForwarding.Store
import LogForwarding.Status
import LogForwarding.Text.Quoted

/-!
# Journals

Everything that a run lets an observer see besides its result is written down in a
journal: events for the log, counters, look-ups of secrets, and how often the
duration of a run was measured. A journal is a list of entries in the order in which
they happened; the counters are read off it by `Journal.count`, and the look-ups by
`Journal.lookups`.
-/

namespace LogForwarding

/-- How important an event is. -/
inductive Level where
  /-- Something failed. -/
  | error
  /-- Something may be wrong. -/
  | warn
  /-- The usual course of a run. -/
  | info
  /-- Details of a run. -/
  | debug
  /-- Finer details. -/
  | trace
  deriving DecidableEq, Repr, Inhabited

namespace Level

/-- All levels, the most important first. -/
def all : List Level := [error, warn, info, debug, trace]

/-- The name of a level in a log line. -/
def name : Level → String
  | error => "ERROR"
  | warn => "WARN"
  | info => "INFO"
  | debug => "DEBUG"
  | trace => "TRACE"

/-- The lower a rank, the more important the level. -/
def rank : Level → Nat
  | error => 1
  | warn => 2
  | info => 3
  | debug => 4
  | trace => 5

end Level

/-- The part of the program that an event comes from. -/
inductive Component where
  /-- Reading settings. -/
  | settings
  /-- Reading specification files. -/
  | specFile
  /-- Reading secrets from a directory. -/
  | secretDirectory
  /-- Putting the default output in place. -/
  | defaultRoute
  /-- Putting tenant outputs in place. -/
  | tenantRoutes
  /-- Checking outputs. -/
  | outputs
  /-- Checking pipelines. -/
  | pipelines
  /-- A whole normalization. -/
  | normalization
  /-- The commands that work on specifications. -/
  | commands
  /-- The commands that work on settings. -/
  | settingsCommands
  /-- The start of the program. -/
  | program
  deriving DecidableEq, Repr, Inhabited

namespace Component

/-- The name by which a log filter picks a component. -/
def target : Component → String
  | settings => "logfwd_core::config"
  | specFile => "logfwd_forwarding::loader"
  | secretDirectory => "logfwd_forwarding::secret_store"
  | defaultRoute => "logfwd_forwarding::migrate::default_output"
  | tenantRoutes => "logfwd_forwarding::migrate::tenant"
  | outputs => "logfwd_forwarding::output"
  | pipelines => "logfwd_forwarding::pipeline"
  | normalization => "logfwd_forwarding::normalizer"
  | commands => "logfwd_cli::commands"
  | settingsCommands => "logfwd_cli::commands::config"
  | program => "logfwd"

end Component

/-- The value of a field of an event. -/
inductive FieldValue where
  /-- A text. -/
  | text (value : String)
  /-- A number. -/
  | number (value : Nat)
  deriving DecidableEq, Repr, Inhabited

/-- Something that happened, for the log. -/
structure Event where
  /-- How important it is. -/
  level : Level
  /-- Where it comes from. -/
  component : Component
  /-- What happened. -/
  message : String
  /-- The particulars. -/
  fields : List (String × FieldValue) := []
  deriving DecidableEq, Repr, Inhabited

/-- What is counted. -/
inductive Counter where
  /-- Outputs that were checked, by the state they ended in. -/
  | outputs (state : State)
  /-- Pipelines that were checked, by the state they ended in. -/
  | pipelines (state : State)
  /-- Outputs that were made for a store, by the kind of store. -/
  | synthesizedOutputs (store : StoreKind)
  /-- Secrets that were looked up. -/
  | secretLookups
  /-- Runs that were given up, by the kind of error. -/
  | abortedRuns (kind : String)
  /-- Measurements of the duration of a run. -/
  | measuredRuns
  deriving DecidableEq, Repr, Inhabited

namespace Counter

/-- The name of the metric that a counter belongs to. -/
def metric : Counter → String
  | outputs _ => "logfwd_outputs_total"
  | pipelines _ => "logfwd_pipelines_total"
  | synthesizedOutputs _ => "logfwd_synthesized_outputs_total"
  | secretLookups => "logfwd_secret_lookups_total"
  | abortedRuns _ => "logfwd_normalize_errors_total"
  | measuredRuns => "logfwd_normalize_duration_seconds"

/-- The label that tells the counters of one metric apart. -/
def label? : Counter → Option (String × String)
  | outputs state => some ("state", state.label)
  | pipelines state => some ("state", state.label)
  | synthesizedOutputs store => some ("store", store.name)
  | abortedRuns kind => some ("kind", kind)
  | secretLookups => none
  | measuredRuns => none

/-- A counter in full: its metric, followed by its label. -/
def key (counter : Counter) : String :=
  match counter.label? with
  | some (name, value) => counter.metric ++ "\x7b" ++ name ++ "=" ++ value ++ "\x7d"
  | none => counter.metric

end Counter

/-- The description of a metric. -/
structure MetricDescription where
  /-- Whether the metric records a distribution rather than a sum. -/
  isHistogram : Bool
  /-- The metric's name. -/
  name : String
  /-- What it measures. -/
  description : String
  deriving DecidableEq, Repr

/-- All metrics, in the order in which they are announced. -/
def metricDescriptions : List MetricDescription :=
  [⟨false, "logfwd_outputs_total",
      "Total number of outputs evaluated, by resulting state"⟩,
    ⟨false, "logfwd_pipelines_total",
      "Total number of pipelines evaluated, by resulting state"⟩,
    ⟨false, "logfwd_synthesized_outputs_total",
      "Total number of outputs synthesized for the log store"⟩,
    ⟨false, "logfwd_secret_lookups_total",
      "Total number of secret lookups issued during output validation"⟩,
    ⟨false, "logfwd_normalize_errors_total",
      "Total number of normalization runs aborted with an error"⟩,
    ⟨true, "logfwd_normalize_duration_seconds",
      "Time to normalize a single forwarding spec in seconds"⟩]

/-- One thing that an observer sees. -/
inductive Entry where
  /-- An event for the log. -/
  | event (event : Event)
  /-- A counter goes up. -/
  | count (counter : Counter) (amount : Nat)
  /-- A secret is looked up. -/
  | lookup (secret : String)
  deriving DecidableEq, Repr, Inhabited

/-- An event as an entry. -/
def Entry.tell (level : Level) (component : Component) (message : String)
    (fields : List (String × FieldValue) := []) : Entry :=
  .event { level, component, message, fields }

/-- By how much an entry raises a counter. -/
def Entry.raise (counter : Counter) : Entry → Nat
  | .count other amount => if other = counter then amount else 0
  | _ => 0

/-- What an observer sees, in order. -/
abbrev Journal : Type := List Entry

namespace Journal

/-- The events of a journal in order. -/
def events (journal : Journal) : List Event :=
  journal.filterMap fun
    | .event event => some event
    | _ => none

/-- The names of the secrets that were looked up, in order. -/
def lookups (journal : Journal) : List String :=
  journal.filterMap fun
    | .lookup secret => some secret
    | _ => none

@[simp] theorem lookups_nil : lookups [] = [] := rfl

@[simp] theorem lookups_cons_event {event : Event} {journal : Journal} :
    lookups (.event event :: journal) = journal.lookups := rfl

@[simp] theorem lookups_cons_tell {level : Level} {component : Component} {message : String}
    {fields : List (String × FieldValue)} {journal : Journal} :
    lookups (.tell level component message fields :: journal) = journal.lookups := rfl

@[simp] theorem lookups_cons_count {counter : Counter} {amount : Nat} {journal : Journal} :
    lookups (.count counter amount :: journal) = journal.lookups := rfl

@[simp] theorem lookups_cons_lookup {secret : String} {journal : Journal} :
    lookups (.lookup secret :: journal) = secret :: journal.lookups := rfl

@[simp] theorem lookups_append {first second : Journal} :
    lookups (first ++ second) = first.lookups ++ second.lookups := List.filterMap_append

/-- The value of a counter after a journal. -/
def count (journal : Journal) (counter : Counter) : Nat :=
  journal.foldr (fun entry total => entry.raise counter + total) 0

/-- The counters that a journal touches, each once, in the order of their first use. -/
def counters (journal : Journal) : List Counter :=
  (journal.filterMap fun
    | .count counter _ => some counter
    | _ => none).eraseDups

/-- The journal with the events that each look-up causes put behind it. -/
def withLookupEvents (journal : Journal) (events : String → List Event) : Journal :=
  journal.flatMap fun
    | .lookup secret => .lookup secret :: (events secret).map .event
    | entry => [entry]

end Journal

/-- A value together with the journal of how it was found. -/
structure Traced (α : Type) where
  /-- What an observer sees. -/
  journal : Journal := []
  /-- The value. -/
  value : α

namespace Traced

/-- A value that nothing is seen of. -/
def pure {α : Type} (value : α) : Traced α := ⟨[], value⟩

/-- Goes on with a value; the second journal follows the first. -/
def bind {α β : Type} (first : Traced α) (next : α → Traced β) : Traced β :=
  ⟨first.journal ++ (next first.value).journal, (next first.value).value⟩

instance : Monad Traced where
  pure := Traced.pure
  bind := Traced.bind

/-- Puts entries into the journal. -/
def note (entries : Journal) : Traced Unit := ⟨entries, ()⟩

@[simp] theorem value_pure {α : Type} (value : α) : (Pure.pure value : Traced α).value = value :=
  rfl

@[simp] theorem journal_pure {α : Type} (value : α) :
    (Pure.pure value : Traced α).journal = [] := rfl

@[simp] theorem value_bind {α β : Type} (first : Traced α) (next : α → Traced β) :
    (first >>= next).value = (next first.value).value := rfl

@[simp] theorem journal_bind {α β : Type} (first : Traced α) (next : α → Traced β) :
    (first >>= next).journal = first.journal ++ (next first.value).journal := rfl

@[simp] theorem journal_map {α β : Type} (f : α → β) (traced : Traced α) :
    (f <$> traced).journal = traced.journal := List.append_nil _

@[simp] theorem journal_note (entries : Journal) : (note entries).journal = entries := rfl

end Traced

end LogForwarding
