import LogForwarding.Reserved
import LogForwarding.Journal

/-!
# Specifications under migration

A specification is migrated when the default log store is put in place: references
to it get an output, and the names that may be taken for that are recorded.
`Migrated` is a specification on the way, and `Migrated.adopt` recognizes standard
pipelines that an earlier run left behind.
-/

namespace LogForwarding

/-- A specification with the names that were put in place for the log store. -/
structure Migrated where
  /-- The specification. -/
  spec : Spec
  /-- The recorded names. -/
  owned : Ownership := {}
  deriving DecidableEq, Repr, Inhabited

namespace Reserved.StandardPipeline

/-- The pipeline that a standard pipeline stands for. -/
def pipeline (standard : StandardPipeline) : Pipeline :=
  { name := standard.name, inputRefs := [standard.kind.name], outputRefs := [defaultOutput] }

/-- Whether a pipeline takes the logs of the standard pipeline, and only those, to the
log store, and only there. With a multi tenant store the reference may already be one
to the tenant. -/
def isRouteOf (standard : StandardPipeline) (store : Store) (pipeline : Pipeline) : Bool :=
  pipeline.inputRefs == [standard.kind.name]
    && (pipeline.outputRefs == [defaultOutput]
      || store.isMultiTenant && pipeline.outputRefs == [tenantOutput standard.kind.name])

end Reserved.StandardPipeline

namespace Migrated

open Reserved (StandardPipeline standardPipelines)

/-- Gives an empty specification the standard pipelines, unless default forwarding is
switched off. -/
def bootstrap (migrated : Migrated) : Traced Migrated :=
  if !migrated.spec.isEmpty then ⟨[], migrated⟩
  else if migrated.spec.disableDefaultForwarding then
    ⟨[.tell .debug .defaultRoute "default forwarding disabled, skipping bootstrap"], migrated⟩
  else
    ⟨[.tell .info .defaultRoute "empty forwarding spec, forwarding to the default log store"],
      { spec := { migrated.spec with
          pipelines := migrated.spec.pipelines ++ standardPipelines.map (·.pipeline) }
        owned := standardPipelines.foldl (fun owned standard => owned.claimPipeline standard.name)
          migrated.owned }⟩

/-- Whether a pipeline has the name and the route of a standard pipeline. -/
def holds (migrated : Migrated) (store : Store) (standard : StandardPipeline) : Bool :=
  migrated.spec.pipelines.any fun pipeline =>
    pipeline.name == standard.name && standard.isRouteOf store pipeline

/-- Records the name of a standard pipeline if some pipeline has its name and route. -/
def adoptOne (migrated : Migrated) (store : Store) (standard : StandardPipeline) :
    Traced Migrated :=
  if migrated.holds store standard && !migrated.owned.ownsPipeline standard.name then
    ⟨[.tell .debug .defaultRoute "adopting reserved pipeline"
        [("pipeline", .text standard.name)]],
      { migrated with owned := migrated.owned.claimPipeline standard.name }⟩
  else ⟨[], migrated⟩

/-- Records the names of all standard pipelines that are there with their route. -/
def adopt (migrated : Migrated) (store : Store) : Traced Migrated :=
  standardPipelines.foldlM (fun migrated standard => migrated.adoptOne store standard) migrated

end Migrated

end LogForwarding
