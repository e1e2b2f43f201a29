import LogForwarding.Yaml.Token

/-!
# Nodes of a YAML text

The tokens of a text form a tree of nodes: texts, lists, maps and references to other
nodes. A node may have a tag and an anchor. Anchors are numbered as they come up: the
number of an anchor is the count of different names before it, so a name that is used
again gives its new place a number that a later name may get too. A reference stands
for the last node with the number that its name has at that point.
-/

namespace LogForwarding.Yaml

/-- What a node carries besides its content. -/
structure Properties where
  /-- The tag in full. -/
  tag : Option (List UInt8) := none
  /-- The number of its anchor. -/
  anchor : Option Nat := none
  deriving DecidableEq, Repr, Inhabited

/-- A node of a YAML text. -/
inductive Node where
  /-- A text, and whether it is written without quotes. -/
  | scalar (properties : Properties) (text : String) (isPlain : Bool)
  /-- A list. -/
  | list (properties : Properties) (items : List Node)
  /-- A map. -/
  | map (properties : Properties) (entries : List (Node × Node))
  /-- A reference to an anchor by its number. -/
  | reference (anchor : Nat)
  deriving Repr, Inhabited

namespace Node

/-- What stands where nothing is written. -/
def empty : Node := scalar {} "" true

mutual

/-- How many steps it takes to walk through a node: one for a text or a reference, one
at each end of a list or map. -/
def steps : Node → Nat
  | scalar _ _ _ => 1
  | reference _ => 1
  | list _ items => 2 + stepsOfItems items
  | map _ entries => 2 + stepsOfEntries entries

/-- The steps through the items of a list. -/
def stepsOfItems : List Node → Nat
  | [] => 0
  | item :: rest => item.steps + stepsOfItems rest

/-- The steps through the entries of a map. -/
def stepsOfEntries : List (Node × Node) → Nat
  | [] => 0
  | (key, value) :: rest => key.steps + value.steps + stepsOfEntries rest

end

/-- A node under its anchor's number, if it has one. -/
def Properties.anchored (properties : Properties) (node : Node) : List (Nat × Node) :=
  properties.anchor.toList.map (·, node)

mutual

/-- All nodes with anchors in a node, in the order in which they start. -/
def anchored : Node → List (Nat × Node)
  | scalar properties text isPlain => Properties.anchored properties (scalar properties text isPlain)
  | reference _ => []
  | list properties items =>
    Properties.anchored properties (list properties items) ++ anchoredItems items
  | map properties entries =>
    Properties.anchored properties (map properties entries) ++ anchoredEntries entries

/-- All nodes with anchors in the items of a list. -/
def anchoredItems : List Node → List (Nat × Node)
  | [] => []
  | item :: rest => item.anchored ++ anchoredItems rest

/-- All nodes with anchors in the entries of a map. -/
def anchoredEntries : List (Node × Node) → List (Nat × Node)
  | [] => []
  | (key, value) :: rest => key.anchored ++ value.anchored ++ anchoredEntries rest

end

end Node

/-! ### Reading nodes -/

/-- The anchors that are known at some point of a text, by their names. -/
abbrev Anchors : Type := List (String × Nat)

/-- What is known while tokens are read into nodes. -/
structure Reading where
  /-- The tokens that are left. -/
  tokens : List Token
  /-- The handles that are declared. -/
  handles : List TagHandle := []
  /-- The anchors so far. -/
  anchors : Anchors := []
  deriving Inhabited

namespace Reading

/-- The next token. -/
def next? (reading : Reading) : Option Token := reading.tokens.head?

/-- Goes on behind the next token. -/
def skip (reading : Reading) : Reading := { reading with tokens := reading.tokens.tail }

/-- Gives a name the next number. -/
def define (reading : Reading) (name : String) : Nat × Reading :=
  let number := reading.anchors.length
  (number, { reading with
    anchors := (name, number) :: reading.anchors.filter (·.1 != name) })

/-- Whether the next token is one of those given. -/
def isAt (reading : Reading) (tokens : List Token) : Bool :=
  reading.next?.any tokens.contains

/-- Goes on behind a token that has to be next. -/
def expect? (reading : Reading) (token : Token) : Option Reading :=
  if reading.next? = some token then some reading.skip else none

end Reading

/-- A way to read a node: with blocks or only inside brackets, and with or without a
list whose items are not indented. -/
structure Place where
  /-- Whether parts by indentation are allowed. -/
  block : Bool
  /-- Whether the items of a list need no indentation of their own. -/
  flatList : Bool

namespace Place

/-- Inside brackets. -/
def flow : Place := ⟨false, false⟩

/-- An item of a list by indentation, or a whole document. -/
def item : Place := ⟨true, false⟩

/-- A key or value of a map by indentation. -/
def entry : Place := ⟨true, true⟩

end Place

/-- The properties of a node as they are written. -/
structure WrittenProperties where
  /-- The tag. -/
  tag : Option WrittenTag := none
  /-- The name of the anchor. -/
  anchor : Option String := none

namespace WrittenProperties

/-- The properties at the start of some tokens, and what follows them: a tag, an anchor,
or both in either order. -/
def ofTokens : List Token → WrittenProperties × List Token
  | .anchor name :: .tag tag :: rest => ({ tag := some tag, anchor := some name }, rest)
  | .tag tag :: .anchor name :: rest => ({ tag := some tag, anchor := some name }, rest)
  | .anchor name :: rest => ({ anchor := some name }, rest)
  | .tag tag :: rest => ({ tag := some tag }, rest)
  | rest => ({}, rest)

end WrittenProperties

/-- The properties of a node, and the tokens of its content. -/
def takeProperties? (reading : Reading) : Option (Properties × Reading) := do
  let (written, tokens) := WrittenProperties.ofTokens reading.tokens
  let tag ← match written.tag with
    | some tag => some <$> tag.resolve? reading.handles
    | none => some none
  let reading := { reading with tokens }
  match written.anchor with
  | some name =>
    let (number, reading) := reading.define name
    return ({ tag, anchor := some number }, reading)
  | none => return ({ tag }, reading)

mutual

/-- Reads a node. What has properties may be empty, anything else has to be there. -/
def node? (fuel : Nat) (place : Place) (reading : Reading) : Option (Node × Reading) :=
  match fuel with
  | 0 => none
  | fuel + 1 =>
    match reading.next? with
    | some (.reference name) => (reading.anchors.lookup name).map (.reference ·, reading.skip)
    | _ =>
      match takeProperties? reading with
      | none => none
      | some (properties, reading) => content? fuel place properties reading

/-- Reads the content of a node. -/
def content? (fuel : Nat) (place : Place) (properties : Properties) (reading : Reading) :
    Option (Node × Reading) :=
  match fuel with
  | 0 => none
  | fuel + 1 =>
    match reading.next? with
    | some (.scalar text isPlain) =>
      if properties.tag = some (bytes "!") then
        some (.scalar { properties with tag := none } text isPlain, reading.skip)
      else some (.scalar properties text isPlain, reading.skip)
    | some .flowListStart =>
      (flowItems? fuel true reading.skip []).map fun (items, reading) =>
        (.list properties items, reading)
    | some .flowMapStart =>
      (flowEntries? fuel true reading.skip []).map fun (entries, reading) =>
        (.map properties entries, reading)
    | some .blockListStart =>
      if place.block then
        (blockItems? fuel reading.skip []).map fun (items, reading) =>
          (.list properties items, reading)
      else absent? properties reading
    | some .blockMapStart =>
      if place.block then
        (blockEntries? fuel reading.skip []).map fun (entries, reading) =>
          (.map properties entries, reading)
      else absent? properties reading
    | some .blockItem =>
      if place.flatList then
        (flatItems? fuel reading []).map fun (items, reading) => (.list properties items, reading)
      else absent? properties reading
    | _ => absent? properties reading

/-- A node without content, which has to have properties. -/
def absent? (properties : Properties) (reading : Reading) : Option (Node × Reading) :=
  if properties = {} then none else some (.scalar properties "" true, reading)

/-- Reads a node unless one of the given tokens follows. -/
def nodeUnless? (fuel : Nat) (place : Place) (ends : List Token) (reading : Reading) :
    Option (Node × Reading) :=
  match fuel with
  | 0 => none
  | fuel + 1 => if reading.isAt ends then some (.empty, reading) else node? fuel place reading

/-- Reads the items of a list by indentation, onto those read so far in reverse. -/
def blockItems? (fuel : Nat) (reading : Reading) (seen : List Node) :
    Option (List Node × Reading) :=
  match fuel with
  | 0 => none
  | fuel + 1 =>
    match reading.next? with
    | some .blockItem =>
      match nodeUnless? fuel .item [.blockItem, .blockEnd] reading.skip with
      | some (item, reading) => blockItems? fuel reading (item :: seen)
      | none => none
    | some .blockEnd => some (seen.reverse, reading.skip)
    | _ => none

/-- Reads the items of a list that is not indented, onto those read so far in reverse. -/
def flatItems? (fuel : Nat) (reading : Reading) (seen : List Node) :
    Option (List Node × Reading) :=
  match fuel with
  | 0 => none
  | fuel + 1 =>
    match reading.next? with
    | some .blockItem =>
      match nodeUnless? fuel .item [.blockItem, .key, .value, .blockEnd] reading.skip with
      | some (item, reading) => flatItems? fuel reading (item :: seen)
      | none => none
    | _ => some (seen.reverse, reading)

/-- Reads a value if one is announced. -/
def valueIf? (fuel : Nat) (place : Place) (ends : List Token) (reading : Reading) :
    Option (Node × Reading) :=
  match fuel with
  | 0 => none
  | fuel + 1 =>
    if reading.isAt [.value] then nodeUnless? fuel place ends reading.skip
    else some (.empty, reading)

/-- Reads the entries of a map by indentation, onto those read so far in reverse. -/
def blockEntries? (fuel : Nat) (reading : Reading) (seen : List (Node × Node)) :
    Option (List (Node × Node) × Reading) :=
  match fuel with
  | 0 => none
  | fuel + 1 =>
    match reading.next? with
    | some .key =>
      match nodeUnless? fuel .entry [.key, .value, .blockEnd] reading.skip with
      | none => none
      | some (key, reading) =>
        match valueIf? fuel .entry [.key, .value, .blockEnd] reading with
        | none => none
        | some (value, reading) => blockEntries? fuel reading ((key, value) :: seen)
    | some .blockEnd => some (seen.reverse, reading.skip)
    | _ => none

/-- Reads a pair that is an item of a list in brackets. Without a key the next token
is passed over. -/
def flowPair? (fuel : Nat) (reading : Reading) : Option (Node × Reading) :=
  match fuel with
  | 0 => none
  | fuel + 1 =>
    let key := if reading.isAt [.value, .flowItem, .flowListEnd] then some (.empty, reading.skip)
      else node? fuel .flow reading
    match key with
    | none => none
    | some (key, reading) =>
      (valueIf? fuel .flow [.flowItem, .flowListEnd] reading).map fun (value, reading) =>
        (.map {} [(key, value)], reading)

/-- Reads the items of a list in brackets, onto those read so far in reverse. -/
def flowItems? (fuel : Nat) (first : Bool) (reading : Reading) (seen : List Node) :
    Option (List Node × Reading) :=
  match fuel with
  | 0 => none
  | fuel + 1 =>
    if reading.isAt [.flowListEnd] then some (seen.reverse, reading.skip)
    else
      match if first then some reading else reading.expect? .flowItem with
      | none => none
      | some reading =>
        match reading.next? with
        | some .flowListEnd => some (seen.reverse, reading.skip)
        | some .key =>
          match flowPair? fuel reading.skip with
          | some (item, reading) => flowItems? fuel false reading (item :: seen)
          | none => none
        | _ =>
          match node? fuel .flow reading with
          | some (item, reading) => flowItems? fuel false reading (item :: seen)
          | none => none

/-- Reads the entries of a map in brackets, onto those read so far in reverse. What no
key mark announces is a key without a value. -/
def flowEntries? (fuel : Nat) (first : Bool) (reading : Reading) (seen : List (Node × Node)) :
    Option (List (Node × Node) × Reading) :=
  match fuel with
  | 0 => none
  | fuel + 1 =>
    if reading.isAt [.flowMapEnd] then some (seen.reverse, reading.skip)
    else
      match if first then some reading else reading.expect? .flowItem with
      | none => none
      | some reading =>
        match reading.next? with
        | some .flowMapEnd => some (seen.reverse, reading.skip)
        | some .key =>
          match nodeUnless? fuel .flow [.value, .flowItem, .flowMapEnd] reading.skip with
          | none => none
          | some (key, reading) =>
            match valueIf? fuel .flow [.flowItem, .flowMapEnd] reading with
            | none => none
            | some (value, reading) => flowEntries? fuel false reading ((key, value) :: seen)
        | _ =>
          match node? fuel .flow reading with
          | some (key, reading) => flowEntries? fuel false reading ((key, .empty) :: seen)
          | none => none

end

/-! ### Documents -/

/-- The declarations at the head of a document: at most one version, which has to be
1.1 or 1.2, and each handle at most once. -/
def takeDirectives? (hasVersion : Bool) (handles : List TagHandle) :
    List Token → Option (List TagHandle × List Token)
  | .directive (.version major minor) :: rest =>
    if hasVersion || major != 1 || !(minor = 1 || minor = 2) then none
    else takeDirectives? true handles rest
  | .directive (.tag handle) :: rest =>
    if handles.any (·.handle == handle.handle) then none
    else takeDirectives? hasVersion (handle :: handles) rest
  | rest => some (handles, rest)

/-- The tokens that may follow the mark of a document without content. -/
def endsDocument : List Token → Bool
  | [] => true
  | .directive _ :: _ => true
  | .documentStart :: _ => true
  | .documentEnd :: _ => true
  | _ => false

/-- The node of a text that holds one document, or none for a text without documents. -/
def Node.ofTokens? (tokens : List Token) : Option (Option Node) := do
  if tokens.isEmpty then return none
  let (handles, rest) ← takeDirectives? false [] tokens
  let fuel := 4 * tokens.length + 4
  let (node, reading) ← match rest with
    | .documentStart :: rest =>
      let reading : Reading := { tokens := rest, handles }
      if endsDocument rest then some (.empty, reading) else node? fuel .item reading
    | rest =>
      if rest.length < tokens.length then none else node? fuel .item { tokens := rest }
  if reading.tokens.all (· == .documentEnd) then return some node else none

end LogForwarding.Yaml
