import LogForwarding.Yaml.Folding
import LogForwarding.Yaml.Tag

/-!
# Tokens of a YAML text

A YAML text is read into tokens: words, marks, and the starts and ends of the parts that
indentation makes. A key of a map that no question mark announces is recognized only by
the colon behind it. Where such a key may start is remembered as a `KeyStart`; when the
colon comes, the tokens that announce the key are put in there. Such a key has to stand
in one line, and must not be longer than 1024 characters.
-/

namespace LogForwarding.Yaml

/-- A token of a YAML text. -/
inductive Token where
  /-- A declaration at the head of a document. -/
  | directive (directive : Directive)
  /-- The mark at the start of a document. -/
  | documentStart
  /-- The mark at the end of a document. -/
  | documentEnd
  /-- The start of a list by indentation. -/
  | blockListStart
  /-- The start of a map by indentation. -/
  | blockMapStart
  /-- The end of a list or map by indentation. -/
  | blockEnd
  /-- The start of a list in brackets. -/
  | flowListStart
  /-- The end of a list in brackets. -/
  | flowListEnd
  /-- The start of a map in brackets. -/
  | flowMapStart
  /-- The end of a map in brackets. -/
  | flowMapEnd
  /-- The mark of an item by indentation. -/
  | blockItem
  /-- The mark between items in brackets. -/
  | flowItem
  /-- What announces a key. -/
  | key
  /-- What announces the value of a key. -/
  | value
  /-- A reference to an anchor. -/
  | reference (name : String)
  /-- A name for the part that follows. -/
  | anchor (name : String)
  /-- A tag. -/
  | tag (tag : WrittenTag)
  /-- A text, and whether it is written without quotes. -/
  | scalar (text : String) (isPlain : Bool)
  deriving DecidableEq, Repr, Inhabited

/-- A place where a key may have started that no question mark announces. -/
structure KeyStart where
  /-- How many tokens come before it. -/
  position : Nat
  /-- Whether nothing but a key may stand there. -/
  required : Bool
  /-- How many characters come before it. -/
  index : Nat
  /-- Its line. -/
  line : Nat
  /-- Its column. -/
  column : Nat
  deriving Repr, Inhabited

/-- What is known while a text is read into tokens. -/
structure Lexer where
  /-- The place in the text. -/
  cursor : Cursor
  /-- The tokens so far, the last one first. -/
  tokens : List Token := []
  /-- How many tokens there are. -/
  count : Nat := 0
  /-- The indentation of the part at hand; `-1` outside all parts. -/
  indent : Int := -1
  /-- The indentations of the parts around it, the inmost one first. -/
  outer : List Int := []
  /-- Where a key may have started at this level of brackets. -/
  keyStart : Option KeyStart := none
  /-- The same for the levels of brackets around it, the inmost one first. -/
  outerKeyStarts : List (Option KeyStart) := []
  /-- Whether a key may start here. -/
  keyAllowed : Bool := true
  deriving Inhabited

namespace Lexer

/-- The greatest length of a key that no question mark announces. -/
def keyLimit : Nat := 1024

/-- Whether the place is inside brackets. -/
def inFlow (lexer : Lexer) : Bool := !lexer.outerKeyStarts.isEmpty

/-- One more token. -/
def push (lexer : Lexer) (token : Token) : Lexer :=
  { lexer with tokens := token :: lexer.tokens, count := lexer.count + 1 }

/-- One more token, put in at an earlier position. -/
def pushAt (lexer : Lexer) (position : Nat) (token : Token) : Lexer :=
  let later := lexer.count - position
  { lexer with
    tokens := lexer.tokens.take later ++ token :: lexer.tokens.drop later
    count := lexer.count + 1 }

/-- Goes on from another place. -/
def moveTo (lexer : Lexer) (cursor : Cursor) : Lexer := { lexer with cursor }

/-- Says whether a key may start behind the token at hand. -/
def allowKey (lexer : Lexer) (keyAllowed : Bool) : Lexer := { lexer with keyAllowed }

/-- A token of the given length at the place. -/
def mark (lexer : Lexer) (token : Token) (length : Nat) : Lexer :=
  (lexer.push token).moveTo (lexer.cursor.skipMany length)

/-- Opens a part by indentation if the column is greater than the indentation. -/
def openBlock (lexer : Lexer) (column : Nat) (position : Nat) (token : Token) : Lexer :=
  if !lexer.inFlow && lexer.indent < column then
    { lexer.pushAt position token with
      indent := column, outer := lexer.indent :: lexer.outer }
  else lexer

/-- Closes the given parts by indentation as far as their indentation is greater than
the column. -/
def closeBlocksFrom (column : Int) (lexer : Lexer) : List Int → Lexer
  | [] => lexer
  | indent :: outer =>
    if column < lexer.indent then
      closeBlocksFrom column { lexer.push .blockEnd with indent, outer } outer
    else lexer

/-- Closes the parts by indentation that end before a column. -/
def closeBlocks (lexer : Lexer) (column : Int) : Lexer :=
  if lexer.inFlow then lexer else closeBlocksFrom column lexer lexer.outer

/-- Gives up that a key has started, which is an error if one has to be there. -/
def dropKeyStart? (lexer : Lexer) : Option Lexer :=
  if lexer.keyStart.any (·.required) then none else some { lexer with keyStart := none }

/-- Remembers that a key may start at the place. -/
def saveKeyStart? (lexer : Lexer) : Option Lexer :=
  if lexer.keyAllowed then do
    let required := !lexer.inFlow && lexer.indent = lexer.cursor.column
    let lexer ← lexer.dropKeyStart?
    let { index, line, column, .. } := lexer.cursor
    return { lexer with
      keyStart := some { position := lexer.count, required, index, line, column } }
  else some lexer

/-- Whether a place is too far behind the start of a key. -/
def isStale (cursor : Cursor) (start : KeyStart) : Bool :=
  start.line < cursor.line || start.index + keyLimit < cursor.index

/-- Forgets the starts of keys that are too far back, which is an error for one that has
to be a key. -/
def dropStale? (lexer : Lexer) : Option Lexer :=
  let stale := isStale lexer.cursor
  if (lexer.keyStart :: lexer.outerKeyStarts).any fun start =>
      start.any fun start => stale start && start.required then none
  else
    some { lexer with
      keyStart := lexer.keyStart.filter (!stale ·)
      outerKeyStarts := lexer.outerKeyStarts.map fun start => start.filter (!stale ·) }

/-- Goes on to the next token, over blanks, comments and line breaks. Tabs count as
blanks only where no key may start. -/
def skipToToken (lexer : Lexer) : Nat → Lexer
  | 0 => lexer
  | fuel + 1 =>
    let cursor := lexer.cursor
    let cursor := if cursor.column = 0 && cursor.rest.head? = some '\uFEFF' then cursor.skip
      else cursor
    let tabs := lexer.inFlow || !lexer.keyAllowed
    let cursor := (cursor.skipWhile fun c => c = ' ' || (tabs && c = '\t')).skipComment
    match cursor.takeBreak? with
    | none => lexer.moveTo cursor
    | some (_, next) =>
      ((lexer.moveTo next).allowKey (lexer.keyAllowed || !lexer.inFlow)).skipToToken fuel

/-- A mark between documents, of three characters. -/
def documentMark? (lexer : Lexer) (token : Token) : Option Lexer := do
  let lexer ← (lexer.closeBlocks (-1)).dropKeyStart?
  return (lexer.mark token 3).allowKey false

/-- A declaration. -/
def directive? (lexer : Lexer) : Option Lexer := do
  let lexer ← (lexer.closeBlocks (-1)).dropKeyStart?
  let (directive, next) ← Directive.take? lexer.cursor
  return ((lexer.push (.directive directive)).moveTo next).allowKey false

/-- An opening bracket. -/
def openFlow? (lexer : Lexer) (token : Token) : Option Lexer := do
  let lexer ← lexer.saveKeyStart?
  let lexer := { lexer with
    keyStart := none, outerKeyStarts := lexer.keyStart :: lexer.outerKeyStarts }
  return (lexer.mark token 1).allowKey true

/-- A closing bracket. -/
def closeFlow? (lexer : Lexer) (token : Token) : Option Lexer := do
  let lexer ← lexer.dropKeyStart?
  let lexer := match lexer.outerKeyStarts with
    | keyStart :: outerKeyStarts => { lexer with keyStart, outerKeyStarts }
    | [] => lexer
  return (lexer.mark token 1).allowKey false

/-- The mark between items in brackets. -/
def flowItem? (lexer : Lexer) : Option Lexer := do
  let lexer ← lexer.dropKeyStart?
  return (lexer.mark .flowItem 1).allowKey true

/-- The mark of an item. -/
def blockItem? (lexer : Lexer) : Option Lexer :=
  if !lexer.inFlow && !lexer.keyAllowed then none
  else do
    let lexer := lexer.openBlock lexer.cursor.column lexer.count .blockListStart
    let lexer ← lexer.dropKeyStart?
    return (lexer.mark .blockItem 1).allowKey true

/-- The mark of a key. -/
def key? (lexer : Lexer) : Option Lexer :=
  if !lexer.inFlow && !lexer.keyAllowed then none
  else do
    let lexer := lexer.openBlock lexer.cursor.column lexer.count .blockMapStart
    let lexer ← lexer.dropKeyStart?
    return (lexer.mark .key 1).allowKey (!lexer.inFlow)

/-- The mark of a value. If a key may have started before it, there is one. -/
def value? (lexer : Lexer) : Option Lexer :=
  match lexer.keyStart with
  | some start =>
    let lexer := lexer.pushAt start.position .key
    let lexer := lexer.openBlock start.column start.position .blockMapStart
    some (({ lexer with keyStart := none }.mark .value 1).allowKey false)
  | none =>
    if !lexer.inFlow && !lexer.keyAllowed then none
    else
      let lexer := lexer.openBlock lexer.cursor.column lexer.count .blockMapStart
      some ((lexer.mark .value 1).allowKey (!lexer.inFlow))

/-- A token that may be part of a key and ends at another place. -/
def inline? (lexer : Lexer) (read : Cursor → Option (Token × Cursor)) : Option Lexer := do
  let lexer ← lexer.saveKeyStart?
  let (token, next) ← read lexer.cursor
  return ((lexer.push token).moveTo next).allowKey false

/-- A name behind a mark. It has to end at a blank, a break or one of a few marks. -/
def name? (cursor : Cursor) : Option (String × Cursor) :=
  let (name, next) := cursor.skip.takeWhile isNameChar
  let ends := endsWord next.rest || next.rest.head?.any fun c => "?:,]\x7d%@`".toList.contains c
  if name.isEmpty || !ends then none else some (String.ofList name, next)

/-- A quoted text. -/
def quoted? (fuel : Nat) (quote : Char) (cursor : Cursor) : Option (Token × Cursor) := do
  let (text, next) ← quotedText? quote fuel [] cursor.skip
  return (.scalar (String.ofList text) false, next)

/-- A block of lines. -/
def block? (lexer : Lexer) (fuel : Nat) (isFolded : Bool) : Option Lexer := do
  let lexer ← lexer.dropKeyStart?
  let (text, next) ← blockText? isFolded lexer.indent fuel lexer.cursor.skip
  return ((lexer.push (.scalar (String.ofList text) false)).moveTo next).allowKey true

/-- A plain text. Behind a line break a key may start. -/
def plain? (lexer : Lexer) (fuel : Nat) : Option Lexer := do
  let lexer ← lexer.saveKeyStart?
  let plain ← plainText? lexer.inFlow (lexer.indent + 1) fuel [] {} lexer.cursor
  return ((lexer.push (.scalar (String.ofList plain.text) true)).moveTo plain.next).allowKey
    plain.brokeLine

/-- Marks that have a meaning of their own, so that no plain text starts with them. -/
def isMark (c : Char) : Bool :=
  "-?:,[]\x7b\x7d#&*!|>'\"%@`".toList.contains c

/-- Whether a plain text starts with the given characters. -/
def startsPlain (inFlow : Bool) (c : Char) (rest : List Char) : Bool :=
  !(isMark c || isBlank c || isBreak c)
    || (c = '-' && !rest.head?.any isBlank)
    || (!inFlow && (c = '?' || c = ':') && !endsWord rest)

/-- The token at the place, of which the next characters are given. The fuel bounds
their number. -/
def token? (lexer : Lexer) (fuel : Nat) (c : Char) (rest : List Char) : Option Lexer :=
  let cursor := lexer.cursor
  let inFlow := lexer.inFlow
  if cursor.column = 0 && c = '%' then lexer.directive?
  else if cursor.atMark '-' then lexer.documentMark? .documentStart
  else if cursor.atMark '.' then lexer.documentMark? .documentEnd
  else if c = '[' then lexer.openFlow? .flowListStart
  else if c = '\x7b' then lexer.openFlow? .flowMapStart
  else if c = ']' then lexer.closeFlow? .flowListEnd
  else if c = '\x7d' then lexer.closeFlow? .flowMapEnd
  else if c = ',' then lexer.flowItem?
  else if c = '-' && endsWord rest then lexer.blockItem?
  else if c = '?' && (inFlow || endsWord rest) then lexer.key?
  else if c = ':' && (inFlow || endsWord rest) then lexer.value?
  else if c = '*' then lexer.inline? fun cursor => (name? cursor).map fun (name, next) =>
    (.reference name, next)
  else if c = '&' then lexer.inline? fun cursor => (name? cursor).map fun (name, next) =>
    (.anchor name, next)
  else if c = '!' then lexer.inline? fun cursor =>
    (WrittenTag.take? inFlow cursor).map fun (tag, next) => (.tag tag, next)
  else if c = '|' && !inFlow then lexer.block? fuel false
  else if c = '>' && !inFlow then lexer.block? fuel true
  else if c = '\'' || c = '"' then lexer.inline? (quoted? fuel c)
  else if startsPlain inFlow c rest then lexer.plain? fuel
  else none

/-- The end of the text. -/
def finish? (lexer : Lexer) : Option (List Token) := do
  let lexer ← (lexer.closeBlocks (-1)).dropKeyStart?
  return lexer.tokens.reverse

/-- Reads tokens up to the end of the text. -/
def run? : Nat → Lexer → Option (List Token)
  | 0, _ => none
  | fuel + 1, lexer => do
    let lexer ← (lexer.skipToToken (fuel + 1)).dropStale?
    let lexer := lexer.closeBlocks lexer.cursor.column
    match lexer.cursor.rest with
    | [] => lexer.finish?
    | c :: rest => run? fuel (← lexer.token? (fuel + 1) c rest)

end Lexer

/-- The tokens of a text. -/
def Token.ofText? (text : List Char) : Option (List Token) :=
  if text.all isAllowed then Lexer.run? (text.length + 1) { cursor := { rest := text } } else none

end LogForwarding.Yaml
