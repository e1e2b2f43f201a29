/-!
# The operator's surroundings

The default route depends on where the operator runs: the namespace of the gateway,
the secret that a collector connects with, and the usual address of a single tenant
store. None of the three may be empty.
-/

namespace LogForwarding

/-- What the operator provides for the default route. -/
structure Operator where
  /-- The namespace that the operator runs in. -/
  operatorNamespace : String := "openshift-logging"
  /-- The name of the secret that collectors connect with. -/
  collectorSecret : String := "collector"
  /-- The address of a single tenant store that names none. -/
  defaultStoreUrl : String := "https://elasticsearch.openshift-logging.svc:9200"
  deriving DecidableEq, Repr, Inhabited

namespace Operator

/-- The fields of `Operator`, by their written names. -/
inductive Field where
  /-- `Operator.operatorNamespace`. -/
  | operatorNamespace
  /-- `Operator.collectorSecret`. -/
  | collectorSecret
  /-- `Operator.defaultStoreUrl`. -/
  | defaultStoreUrl
  deriving DecidableEq, Repr

/-- The written name of a field. -/
def Field.name : Field → String
  | operatorNamespace => "namespace"
  | collectorSecret => "collector_secret_name"
  | defaultStoreUrl => "default_store_url"

/-- The first field that is empty, if any. -/
def emptyField? (operator : Operator) : Option Field :=
  if operator.operatorNamespace.isEmpty then some .operatorNamespace
  else if operator.collectorSecret.isEmpty then some .collectorSecret
  else if operator.defaultStoreUrl.isEmpty then some .defaultStoreUrl
  else none

end Operator

end LogForwarding
