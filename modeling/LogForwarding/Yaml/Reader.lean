import LogForwarding.Yaml.Scalar

/-!
# Reading YAML

`Yaml.read` reads a text into the document that it holds. References are replaced by
what they refer to, as often as a hundred times the size of the text. The keys of a map
have to be different, and lists and maps may be nested 128 deep, references included. A
text without a document stands for the absent value; one with several stands for
nothing.
-/

namespace LogForwarding.Yaml

/-- The deepest nesting of lists and maps. -/
def depthLimit : Nat := 128

/-- How often references may be followed, for each step through the text. -/
def repetitionLimit : Nat := 100

/-- What references refer to. -/
structure References where
  /-- The nodes with anchors by their numbers. Of those with one number the first counts. -/
  nodes : List (Nat × Node)
  /-- How often references may be followed. -/
  limit : Nat

/-- A computation that counts how often a reference is followed, and may fail. -/
abbrev Following : Type → Type := StateT Nat Option

namespace References

/-- The references in a node. -/
def ofNode (node : Node) : References where
  nodes := node.anchored.reverse
  limit := repetitionLimit * node.steps

/-- The node that a reference stands for; any other node stands for itself. -/
def follow (references : References) : Node → Following Node
  | .reference anchor => do
    let count := (← get) + 1
    set count
    if references.limit < count then failure
    else StateT.lift (references.nodes.lookup anchor)
  | node => pure node

/-- Whether two entries of a list have the same key. -/
def hasRepeatedKey : List (Document × Document) → Bool
  | [] => false
  | (key, _) :: rest => rest.any (fun other => key.sameKey other.1) || hasRepeatedKey rest

/-- The document of a map with the given entries, whose keys have to be different. -/
def mapOf? (entries : List (Document × Document)) : Option Document :=
  if hasRepeatedKey entries then none else some (.map entries)

/-- The document of a text. -/
def scalar (properties : Properties) (text : String) (isPlain : Bool) : Following Document :=
  StateT.lift ((scalarValue? properties text isPlain).map (withTag properties))

/-- The document of a node, in which lists and maps may be nested as deep as given. -/
def document (references : References) : Nat → Node → Following Document
  | 0, node => do
    match ← references.follow node with
    | .scalar properties text isPlain => scalar properties text isPlain
    | _ => failure
  | depth + 1, node => do
    match ← references.follow node with
    | .scalar properties text isPlain => scalar properties text isPlain
    | .list properties items =>
      return withTag properties (.list (← items.mapM (references.document depth)))
    | .map properties entries =>
      let entries ← entries.mapM fun (key, value) =>
        return (← references.document depth key, ← references.document depth value)
      withTag properties <$> StateT.lift (mapOf? entries)
    | .reference _ => failure

end References

/-- The document of a node. -/
def Node.document? (node : Node) : Option Document :=
  ((References.ofNode node).document depthLimit node).run' 0

/-- The document of a text. -/
def read (text : String) : Option Document := do
  match ← Node.ofTokens? (← Token.ofText? text.toList) with
  | some node => node.document?
  | none => return .null

end LogForwarding.Yaml
