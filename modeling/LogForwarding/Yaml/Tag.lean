import LogForwarding.Yaml.Cursor
import LogForwarding.Number.Literal

/-!
# Tags

A tag is written in full between angle brackets, or as a handle and a suffix. What a
handle stands for is declared at the head of a document; two handles are known without
a declaration.
-/

namespace LogForwarding.Yaml

/-- A tag as it is written. -/
structure WrittenTag where
  /-- The handle; empty for a tag that is written in full. -/
  handle : String
  /-- What follows the handle, with its escapes resolved. -/
  suffix : List UInt8
  deriving DecidableEq, Repr, Inhabited

/-- What a handle stands for. -/
structure TagHandle where
  /-- The handle. -/
  handle : String
  /-- What stands in its place. -/
  value : List UInt8
  deriving DecidableEq, Repr, Inhabited

/-- The bytes of a text. -/
def bytes (text : String) : List UInt8 := text.toUTF8.toList

namespace WrittenTag

/-- What the handles that are known without a declaration stand for. -/
def standardHandles : List TagHandle :=
  [⟨"!", bytes "!"⟩, ⟨"!!", bytes "tag:yaml.org,2002:"⟩]

/-- The tag in full, given the declared handles. -/
def resolve? (tag : WrittenTag) (declared : List TagHandle) : Option (List UInt8) :=
  if tag.handle.isEmpty then some tag.suffix
  else
    ((declared ++ standardHandles).find? (·.handle == tag.handle)).map (·.value ++ tag.suffix)

/-- Whether a character may stand in a tag. Inside angle brackets a few marks may. -/
def isTagChar (inBrackets : Bool) (c : Char) : Bool :=
  isNameChar c || ";/?:@&=+$.%!~*'()".toList.contains c || (inBrackets && ",[]".toList.contains c)

/-- How many bytes a character has whose first byte is given. -/
def width? (first : Nat) : Option Nat :=
  if first < 0x80 then some 1
  else if first < 0xC0 then none
  else if first < 0xE0 then some 2
  else if first < 0xF0 then some 3
  else if first < 0xF8 then some 4
  else none

/-- The byte that an escape at the start of a text stands for, and what follows it. -/
def escapedByte? : List Char → Option (Nat × List Char)
  | '%' :: a :: b :: rest => (Number.natural? 16 [a, b]).map (·, rest)
  | _ => none

/-- The further bytes of a character, each written as an escape. -/
def furtherBytes? : Nat → List Char → Option (List UInt8 × List Char)
  | 0, text => some ([], text)
  | count + 1, text => do
    let (byte, rest) ← escapedByte? text
    if byte / 0x40 = 2 then
      let (further, rest) ← furtherBytes? count rest
      return (byte.toUInt8 :: further, rest)
    else none

/-- The bytes of a character that is written with escapes, and what follows it. -/
def escapedChar? (text : List Char) : Option (List UInt8 × List Char) := do
  let (first, rest) ← escapedByte? text
  let width ← width? first
  let (further, rest) ← furtherBytes? (width - 1) rest
  return (first.toUInt8 :: further, rest)

/-- The bytes of the part of a tag at the start of a text, and what follows it. -/
def part? (inBrackets : Bool) : Nat → List Char → Option (List UInt8 × List Char)
  | 0, _ => none
  | _, [] => some ([], [])
  | fuel + 1, c :: rest =>
    if c = '%' then do
      let (first, rest) ← escapedChar? (c :: rest)
      let (further, rest) ← part? inBrackets fuel rest
      return (first ++ further, rest)
    else if isTagChar inBrackets c then do
      let (further, rest) ← part? inBrackets fuel rest
      return (bytes c.toString ++ further, rest)
    else some ([], c :: rest)

/-- Reads the part of a tag at a place; there has to be one. -/
def takePart? (inBrackets : Bool) (cursor : Cursor) : Option (List UInt8 × Cursor) := do
  let (part, rest) ← part? inBrackets (cursor.rest.length + 1) cursor.rest
  if part.isEmpty then none
  else return (part, cursor.skipMany (cursor.rest.length - rest.length))

/-- A handle at a place: a name behind an exclamation mark, and whether another such
mark ends it. -/
def takeHandle? (cursor : Cursor) : Option (String × Bool × Cursor) :=
  match cursor.rest with
  | '!' :: _ =>
    let (name, next) := cursor.skip.takeWhile isNameChar
    let text := String.ofList ('!' :: name)
    if next.rest.head? = some '!' then some (text ++ "!", true, next.skip)
    else some (text, false, next)
  | _ => none

/-- Reads what follows a handle. A handle without an end is part of the suffix; without
a suffix it is a tag of its own. -/
def takeSuffix? (cursor : Cursor) : Option (WrittenTag × Cursor) := do
  let (handle, hasEnd, next) ← takeHandle? cursor
  if hasEnd then
    let (suffix, next) ← takePart? false next
    return (⟨handle, suffix⟩, next)
  else
    let name := (bytes handle).drop 1
    let (further, rest) ← part? false (next.rest.length + 1) next.rest
    let suffix := name ++ further
    let next := next.skipMany (next.rest.length - rest.length)
    return (if suffix.isEmpty then ⟨"", bytes "!"⟩ else ⟨"!", suffix⟩, next)

/-- Reads a tag between angle brackets. -/
def takeFull? (cursor : Cursor) : Option (WrittenTag × Cursor) := do
  let (suffix, next) ← takePart? true (cursor.skipMany 2)
  if next.rest.head? = some '>' then return (⟨"", suffix⟩, next.skip) else none

/-- Reads a tag. A blank or a break has to follow, or inside brackets a comma. -/
def take? (inFlow : Bool) (cursor : Cursor) : Option (WrittenTag × Cursor) := do
  let (tag, next) ← match cursor.rest with
    | '!' :: '<' :: _ => takeFull? cursor
    | _ => takeSuffix? cursor
  if endsWord next.rest || (inFlow && next.rest.head? = some ',') then return (tag, next) else none

end WrittenTag

/-! ### Declarations at the head of a document -/

/-- A declaration at the head of a document. -/
inductive Directive where
  /-- The version of YAML that the document is written in. -/
  | version (major minor : Nat)
  /-- What a handle stands for. -/
  | tag (handle : TagHandle)
  deriving DecidableEq, Repr, Inhabited

namespace Directive

/-- Reads a number of at most nine digits. -/
def takeNumber? (cursor : Cursor) : Option (Nat × Cursor) := do
  let (digits, next) := cursor.takeWhile Number.isDigit
  let number ← Number.natural? 10 digits
  if digits.length ≤ 9 then return (number, next) else none

/-- Reads a version. -/
def takeVersion? (cursor : Cursor) : Option (Directive × Cursor) := do
  let (major, next) ← takeNumber? cursor
  if next.rest.head? = some '.' then
    let (minor, next) ← takeNumber? next.skip
    return (.version major minor, next)
  else none

/-- Reads what a handle stands for. -/
def takeTag? (cursor : Cursor) : Option (Directive × Cursor) := do
  let (handle, hasEnd, next) ← WrittenTag.takeHandle? cursor
  if !hasEnd && handle != "!" then none
  else if !next.rest.head?.any isBlank then none
  else
    let (value, next) ← WrittenTag.takePart? true (next.skipWhile isBlank)
    if endsWord next.rest then return (.tag ⟨handle, value⟩, next) else none

/-- Reads a declaration and the rest of its line. -/
def take? (cursor : Cursor) : Option (Directive × Cursor) := do
  let (name, next) := cursor.skip.takeWhile isNameChar
  if !endsWord next.rest then none
  else
    let next := next.skipWhile isBlank
    let (directive, next) ← match String.ofList name with
      | "YAML" => takeVersion? next
      | "TAG" => takeTag? next
      | _ => none
    return (directive, ← next.endLine?)

end Directive

end LogForwarding.Yaml
