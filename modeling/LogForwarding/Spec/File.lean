import LogForwarding.File.System
import LogForwarding.Journal
import LogForwarding.Spec.Text

/-!
# Specification files

A specification file is read whole, unless it is larger than `Spec.sizeLimit`.
-/

namespace LogForwarding.Spec

/-- The greatest size of a specification file in bytes. -/
def sizeLimit : Nat := 10 * 1024 * 1024

/-- The text of a specification file. -/
def readFile (files : Files) (path : String) : Except ForwardingError String :=
  match files.metadata path with
  | .error error => .error (.specLoad path s!"failed to read file metadata: {error.message}")
  | .ok metadata =>
    if metadata.size > sizeLimit then
      .error (.specLoad path s!"file too large: {metadata.size} bytes (max: {sizeLimit})")
    else
      match files.readText path with
      | .error error => .error (.specLoad path s!"failed to read file: {error.message}")
      | .ok text => .ok text

/-- Reads a specification file. -/
def load (files : Files) (path : String) : Traced (Except ForwardingError Spec) :=
  match readFile files path >>= ofText (.ofPath path) path with
  | .error error => ⟨[], .error error⟩
  | .ok spec =>
    ⟨[.tell .debug .specFile "loaded forwarding spec"
        [("path", .text path), ("outputs", .number spec.outputs.length),
          ("pipelines", .number spec.pipelines.length), ("inputs", .number spec.inputs.length)]],
      .ok spec⟩

end LogForwarding.Spec
