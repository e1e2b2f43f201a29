import LogForwarding.Pipeline

/-!
# The route index

The index answers which pipelines send to an output. It is built in one pass over
the pipelines; each pipeline is recorded under the name by which a report shows it,
once for every output, in the order of the pipelines.
-/

namespace LogForwarding

/-- The outputs that are referred to, each with the pipelines that refer to it. -/
structure RouteIndex where
  /-- An output and its pipelines, in the order of first use. -/
  entries : List (String × List String) := []
  deriving DecidableEq, Repr, Inhabited

namespace RouteIndex

/-- The entries with a pipeline recorded under an output. -/
def record (output pipeline : String) :
    List (String × List String) → List (String × List String)
  | [] => [(output, [pipeline])]
  | (other, pipelines) :: rest =>
    if other = output then
      (other, if pipeline ∈ pipelines then pipelines else pipelines ++ [pipeline]) :: rest
    else (other, pipelines) :: record output pipeline rest

/-- The index with a pipeline recorded under an output. -/
def add (index : RouteIndex) (output pipeline : String) : RouteIndex :=
  ⟨record output pipeline index.entries⟩

/-- The index with the pipeline at a position recorded under all its outputs. -/
def addPipeline (index : RouteIndex) (pipeline : Pipeline) (position : Nat) : RouteIndex :=
  pipeline.outputRefs.foldl (fun index output => index.add output (pipeline.displayName position))
    index

/-- The index of a list of pipelines. -/
def ofPipelines (pipelines : List Pipeline) : RouteIndex :=
  pipelines.zipIdx.foldl (fun index (pipeline, position) => index.addPipeline pipeline position) {}

/-- The pipelines that send to an output. -/
def referencing (index : RouteIndex) (output : String) : List String :=
  (index.entries.lookup output).getD []

/-- Whether any pipeline sends to an output. -/
def isReferenced (index : RouteIndex) (output : String) : Bool :=
  !(index.referencing output).isEmpty

end RouteIndex

end LogForwarding
