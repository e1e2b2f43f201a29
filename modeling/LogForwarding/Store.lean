/-!
# Log stores

A log store is the place that logs go to when a pipeline sends them to `default`.
It is described from outside a specification. A single tenant store is reached at
one address; a multi tenant store has an address for each tenant behind a gateway
that is named after the store.
-/

namespace LogForwarding

/-- The kinds of log stores. -/
inductive StoreKind where
  /-- There is no store. -/
  | none
  /-- A single tenant store. -/
  | elasticsearch
  /-- A multi tenant store. -/
  | lokiStack
  deriving DecidableEq, Repr, Inhabited

namespace StoreKind

/-- All kinds in their order. -/
def all : List StoreKind := [none, elasticsearch, lokiStack]

/-- The written name of a kind. -/
def name : StoreKind → String
  | none => "none"
  | elasticsearch => "elasticsearch"
  | lokiStack => "lokistack"

/-- The kind with exactly the given name. -/
def ofName? (written : String) : Option StoreKind :=
  match written with
  | "none" => some none
  | "elasticsearch" => some elasticsearch
  | "lokistack" => some lokiStack
  | _ => Option.none

/-- The lower case of a character where that is a plain letter: besides the plain
capitals only the Kelvin sign has one. Any other character stays as it is, which
is enough to compare a text with names made of plain letters: the lower case of
such a character contains something that is not a plain letter. -/
def lowerLetter (c : Char) : Char :=
  if c = '\u212A' then 'k' else c.toLower

/-- Reads a kind as a person types it: in any case, with the short names `es` and
`loki`, and with nothing for no store. -/
def ofTyped? (typed : String) : Option StoreKind :=
  match typed.map lowerLetter with
  | "" | "none" => some none
  | "elasticsearch" | "es" => some elasticsearch
  | "lokistack" | "loki" => some lokiStack
  | _ => Option.none

@[simp] theorem ofName?_name (kind : StoreKind) : ofName? kind.name = some kind := by
  cases kind <;> rfl

end StoreKind

/-- A log store as described from outside. -/
structure Store where
  /-- The kind of store. -/
  kind : StoreKind := .none
  /-- The store's name, which a gateway's host name starts with. -/
  name : String := ""
  /-- The address of a single tenant store; empty for the usual one. -/
  serviceEndpoint : String := ""
  deriving DecidableEq, Repr, Inhabited

namespace Store

/-- A single tenant store at its usual address. -/
def elasticsearch (name : String) : Store := { kind := .elasticsearch, name }

/-- A multi tenant store. -/
def lokiStack (name : String) : Store := { kind := .lokiStack, name }

/-- Whether the description stands for a store at all. -/
def isConfigured (store : Store) : Bool := store.kind != .none

/-- Whether the store keeps its tenants apart. -/
def isMultiTenant (store : Store) : Bool := store.kind == .lokiStack

/-- The kind of store, if there is one. -/
def kindOf (store : Option Store) : StoreKind := (store.map fun store => store.kind).getD .none

/-- The port that the gateway listens on. -/
def gatewayPort : Nat := 8080

/-- The address of one tenant behind the gateway of a store in a namespace; a store
without a name has no gateway. -/
def gatewayUrl? (store : Store) (operatorNamespace tenant : String) : Option String :=
  if store.name.isEmpty then none
  else
    some s!"https://{store.name}-gateway-http.{operatorNamespace}.svc:{gatewayPort}/api/logs/v1/{tenant}"

end Store

end LogForwarding
