import LogForwarding.Names
import LogForwarding.Reserved
import LogForwarding.Journal

/-!
# Tenant outputs

A multi tenant store has no single address. Every reference to `default` becomes a
reference to the output of the tenant that the logs belong to. Since a tenant goes by
the kind of logs, a pipeline that refers to `default` is split into one pipeline for
each of its inputs, and the outputs of all tenants that are needed are appended to
the specification.
-/

namespace LogForwarding.Tenant

open Reserved (defaultOutput tenantOutput)

/-- Whether a pipeline has to be split: it refers to `default` and has inputs. -/
def isSplit (pipeline : Pipeline) : Bool :=
  pipeline.references defaultOutput && !pipeline.inputRefs.isEmpty

/-- The reference that takes the place of another one for the logs of an input. -/
def redirect (input ref : String) : String :=
  if ref = defaultOutput then tenantOutput input else ref

/-- The name of the part of a pipeline that keeps the input at a position. The first
part keeps the name. -/
def partName (name : String) (position : Nat) : String :=
  if name.isEmpty || position = 0 then name else s!"{name}-{position}"

/-- The part of a pipeline that keeps the input at a position. -/
def part (pipeline : Pipeline) (input : String) (position : Nat) : Pipeline :=
  { pipeline with
    name := partName pipeline.name position
    inputRefs := [input]
    outputRefs := pipeline.outputRefs.map (redirect input) }

/-- What becomes of a pipeline: its parts if it has to be split, else itself. -/
def parts (pipeline : Pipeline) : List Pipeline :=
  if isSplit pipeline then
    pipeline.inputRefs.zipIdx.map fun (input, position) => part pipeline input position
  else [pipeline]

/-- The inputs whose logs go to `default`, in increasing order. -/
def neededInputs (pipelines : List Pipeline) : List String :=
  sortedSet ((pipelines.filter isSplit).flatMap (·.inputRefs))

/-- The output of the tenant that an input's logs belong to. It cannot be made if the
kind of logs is unknown, or if the store has no gateway. -/
def output (spec : Spec) (store : Store) (operatorNamespace input : String) :
    Traced (Option Output) :=
  match Input.resolve? spec.inputs input with
  | none =>
    ⟨[.tell .warn .tenantRoutes "unable to determine tenant for input, no output synthesized"
        [("input", .text input)]], none⟩
  | some kind =>
    match store.gatewayUrl? operatorNamespace kind.name with
    | none =>
      ⟨[.tell .warn .tenantRoutes "log store has no name, no tenant output synthesized"
          [("input", .text input)]], none⟩
    | some url => ⟨[], some { name := tenantOutput input, kind := .loki, url }⟩

/-- The outputs of all tenants that are needed, in increasing order of their names. -/
def outputs (spec : Spec) (store : Store) (operatorNamespace : String) : Traced (List Output) :=
  let made := (neededInputs spec.pipelines).map (output spec store operatorNamespace)
  ⟨made.flatMap (·.journal),
    (made.filterMap (·.value)).mergeSort fun a b => a.name ≤ b.name⟩

/-- What an observer sees of the outputs that were made. -/
def announce (store : Store) (made : List Output) : Journal :=
  if made.isEmpty then []
  else
    [.tell .info .tenantRoutes "synthesized tenant outputs"
        [("store", .text store.name), ("outputs", .number made.length)],
      .count (.synthesizedOutputs store.kind) made.length]

/-- Puts tenant outputs in the place of `default`, and records their names. -/
def fanOut (spec : Spec) (store : Store) (operatorNamespace : String) (owned : Ownership) :
    Traced (Spec × Ownership) := do
  let made ← outputs spec store operatorNamespace
  Traced.note (announce store made)
  return ({ spec with
            pipelines := spec.pipelines.flatMap parts
            outputs := spec.outputs ++ made },
    made.foldl (fun owned output => owned.claimOutput output.name) owned)

end LogForwarding.Tenant
