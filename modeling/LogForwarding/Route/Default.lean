import LogForwarding.Route.Index
import LogForwarding.Route.Migration
import LogForwarding.Route.Tenant
import LogForwarding.Error

/-!
# The default route

`Spec.migrate` puts the log store in the place of the reserved output `default`.
Without a store no pipeline may refer to `default`. With a single tenant store there
is one output `default`, which takes the place of every output declared under that
name. With a multi tenant store the references go to tenant outputs.
-/

namespace LogForwarding

open Reserved (defaultOutput)

/-- The output of a single tenant store. -/
def Spec.newDefaultOutput (spec : Spec) (store : Store) (operator : Operator) : Output where
  name := defaultOutput
  kind := .elasticsearch
  url := if store.serviceEndpoint.isEmpty then operator.defaultStoreUrl else store.serviceEndpoint
  secret := some ⟨operator.collectorSecret⟩
  elasticsearch := spec.defaultTuning

/-- What takes the place of a declared output: for one named `default` the output of
the store, which keeps only the declared settings, if there are any. -/
def Output.replaceDefault (replacement declared : Output) : Output :=
  if declared.name = defaultOutput then
    { replacement with elasticsearch := declared.elasticsearch <|> replacement.elasticsearch }
  else declared

namespace Migrated

/-- Puts the output of a single tenant store in place. -/
def placeDefaultOutput (migrated : Migrated) (store : Store) (operator : Operator) :
    Traced Migrated :=
  let made := migrated.spec.newDefaultOutput store operator
  let owned := migrated.owned.claimOutput defaultOutput
  if migrated.spec.outputs.any (·.name == defaultOutput) then
    ⟨[], { spec := { migrated.spec with
            outputs := migrated.spec.outputs.map made.replaceDefault }, owned }⟩
  else
    ⟨[.tell .debug .defaultRoute "adding default output" [("url", .text made.url)],
        .count (.synthesizedOutputs store.kind) 1],
      { spec := { migrated.spec with outputs := migrated.spec.outputs ++ [made] }, owned }⟩

/-- Gives references to `default` their output. -/
def resolveDefault (migrated : Migrated) (store : Option Store) (operator : Operator) :
    Traced (Except ForwardingError Migrated) :=
  let index := RouteIndex.ofPipelines migrated.spec.pipelines
  if !index.isReferenced defaultOutput then ⟨[], .ok migrated⟩
  else
    match store with
    | none =>
      let pipelines := index.referencing defaultOutput
      ⟨[.tell .warn .defaultRoute "default output referenced but no log store is configured"
          [("pipelines", .text (Text.listed (pipelines.map Text.quoted)))]],
        .error (.noLogStore pipelines)⟩
    | some store =>
      if store.isMultiTenant then ⟨[], .ok migrated⟩
      else .ok <$> migrated.placeDefaultOutput store operator

/-- Puts tenant outputs in the place of `default`. -/
def fanOut (migrated : Migrated) (store : Store) (operator : Operator) : Traced Migrated := do
  let (spec, owned) ←
    Tenant.fanOut migrated.spec store operator.operatorNamespace migrated.owned
  return { spec, owned }

/-- Prepares a specification for a store: standard pipelines, their adoption, and
tenant outputs. -/
def prepare (migrated : Migrated) (store : Store) (operator : Operator) : Traced Migrated := do
  let migrated ← migrated.bootstrap
  let migrated ← migrated.adopt store
  if store.isMultiTenant then migrated.fanOut store operator else return migrated

end Migrated

/-- Puts the log store in the place of `default`. A store of kind `none` is no store. -/
def Spec.migrate (spec : Spec) (store : Option Store) (operator : Operator) :
    Traced (Except ForwardingError Migrated) := do
  let store := store.filter (·.isConfigured)
  let migrated ← match store with
    | some store => Migrated.prepare { spec } store operator
    | none => pure { spec }
  migrated.resolveDefault store operator

end LogForwarding
