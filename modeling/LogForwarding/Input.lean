/-!
# Inputs

An input names a group of logs. What it collects is decided by the source that is
filled in: application logs, logs of the platform, or audit logs. `SourceSet` is a
set of such kinds of logs, listed in the fixed order of `SourceKind.all`.
-/

namespace LogForwarding

/-- The kinds of logs, in the order in which reports list them. -/
inductive SourceKind where
  /-- Logs of application containers. -/
  | application
  /-- Logs of the nodes and of the platform itself. -/
  | infrastructure
  /-- Audit logs. -/
  | audit
  deriving DecidableEq, Repr, Inhabited

namespace SourceKind

/-- All kinds in their order. -/
def all : List SourceKind := [application, infrastructure, audit]

/-- The name of a kind, which is also the reserved name of the input that collects
all logs of that kind. -/
def name : SourceKind → String
  | application => "application"
  | infrastructure => "infrastructure"
  | audit => "audit"

/-- The kind with the given name. Case matters. -/
def ofName? (written : String) : Option SourceKind :=
  match written with
  | "application" => some application
  | "infrastructure" => some infrastructure
  | "audit" => some audit
  | _ => none

@[simp] theorem ofName?_name (kind : SourceKind) : ofName? kind.name = some kind := by
  cases kind <;> rfl

theorem mem_all (kind : SourceKind) : kind ∈ all := by
  cases kind <;> simp [all]

end SourceKind

/-- A set of kinds of logs. -/
structure SourceSet where
  /-- Whether application logs are in the set. -/
  application : Bool := false
  /-- Whether platform logs are in the set. -/
  infrastructure : Bool := false
  /-- Whether audit logs are in the set. -/
  audit : Bool := false
  deriving DecidableEq, Repr, Inhabited

namespace SourceSet

/-- Whether a kind is in the set. -/
def contains (set : SourceSet) : SourceKind → Bool
  | .application => set.application
  | .infrastructure => set.infrastructure
  | .audit => set.audit

instance : Membership SourceKind SourceSet := ⟨fun set kind => set.contains kind = true⟩

/-- The set with one kind put in. -/
def insert (set : SourceSet) : SourceKind → SourceSet
  | .application => { set with application := true }
  | .infrastructure => { set with infrastructure := true }
  | .audit => { set with audit := true }

/-- The set of the kinds in a list. -/
def ofList (kinds : List SourceKind) : SourceSet :=
  ⟨kinds.contains .application, kinds.contains .infrastructure, kinds.contains .audit⟩

/-- The members in the order of `SourceKind.all`. -/
def toList (set : SourceSet) : List SourceKind :=
  SourceKind.all.filter set.contains

theorem mem_iff {set : SourceSet} {kind : SourceKind} :
    kind ∈ set ↔ set.contains kind = true := Iff.rfl

@[simp] theorem mem_ofList {kinds : List SourceKind} {kind : SourceKind} :
    kind ∈ ofList kinds ↔ kind ∈ kinds := by
  cases kind <;> simp [mem_iff, contains, ofList]

@[simp] theorem mem_toList {set : SourceSet} {kind : SourceKind} :
    kind ∈ set.toList ↔ kind ∈ set := by
  simp [toList, mem_iff, SourceKind.mem_all]

/-- Two sets with the same members are equal. -/
theorem ext_mem {a b : SourceSet} (h : ∀ kind, kind ∈ a ↔ kind ∈ b) : a = b := by
  have happ : a.application = b.application := Bool.eq_iff_iff.2 (h .application)
  have hinf : a.infrastructure = b.infrastructure := Bool.eq_iff_iff.2 (h .infrastructure)
  have haud : a.audit = b.audit := Bool.eq_iff_iff.2 (h .audit)
  cases a
  cases b
  simp_all

@[simp] theorem ofList_toList (set : SourceSet) : ofList set.toList = set :=
  ext_mem fun _ => by simp

end SourceSet

/-- Which application logs an input collects. -/
structure ApplicationSource where
  /-- The namespaces to collect from; none listed means all of them. -/
  namespaces : List String := []
  deriving DecidableEq, Repr, Inhabited

/-- A named group of logs. -/
structure Input where
  /-- The name that pipelines refer to. -/
  name : String := ""
  /-- The application logs it collects, if any. -/
  application : Option ApplicationSource := none
  /-- Whether it collects platform logs. -/
  infrastructure : Bool := false
  /-- Whether it collects audit logs. -/
  audit : Bool := false
  deriving DecidableEq, Repr, Inhabited

namespace Input

/-- The kind of an input: the first source that is filled in, in the order of
`SourceKind.all`. -/
def kind? (input : Input) : Option SourceKind :=
  if input.application.isSome then some .application
  else if input.infrastructure then some .infrastructure
  else if input.audit then some .audit
  else none

/-- The kind that a reference to an input stands for. A reserved name is its own
kind; any other name takes the first input of that name that has a source. -/
def resolve? (inputs : List Input) (name : String) : Option SourceKind :=
  match SourceKind.ofName? name with
  | some kind => some kind
  | none => (inputs.filter (·.name = name)).findSome? kind?

end Input

end LogForwarding
