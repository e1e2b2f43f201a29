import LogForwarding.Yaml.Cursor
import LogForwarding.Number.Literal

/-!
# Texts over several lines

A text in YAML may go on over several lines. Within plain and quoted texts a single
line break stands for a space, and of several breaks the first one is dropped.
Literal blocks keep their breaks, folded blocks treat them like plain texts do, except
around lines that start with a blank. The fuel of the functions below bounds the number
of characters that are left; one more than their number is always enough.
-/

namespace LogForwarding.Yaml

/-- The blanks and breaks between two parts of a text. -/
structure Gap where
  /-- Whether the text goes on in another line. -/
  hasBreak : Bool := false
  /-- The blanks, as long as there is no break. -/
  blanks : List Char := []
  /-- What the first break stands for. -/
  firstBreak : Option Char := none
  /-- What the further breaks stand for. -/
  moreBreaks : List Char := []
  deriving Repr, Inhabited

namespace Gap

/-- The first break of several lines, folded together with the further ones. -/
def fold (firstBreak : Option Char) (moreBreaks : List Char) : List Char :=
  match firstBreak with
  | some '\n' => if moreBreaks.isEmpty then [' '] else moreBreaks
  | some c => c :: moreBreaks
  | none => moreBreaks

/-- What a gap stands for. -/
def text (gap : Gap) : List Char :=
  if gap.hasBreak then fold gap.firstBreak gap.moreBreaks else gap.blanks

/-- Reads a gap onto what is known of it. A tab at the start of a line before the given
column is not allowed. -/
def read? (least : Int) : Nat → Gap → Cursor → Option (Gap × Cursor)
  | 0, _, _ => none
  | fuel + 1, gap, cursor =>
    match cursor.takeBreak? with
    | some (c, next) =>
      let gap := if gap.hasBreak then { gap with moreBreaks := gap.moreBreaks ++ [c] }
        else { hasBreak := true, firstBreak := some c }
      read? least fuel gap next
    | none =>
      match cursor.rest with
      | c :: _ =>
        if !isBlank c then some (gap, cursor)
        else if gap.hasBreak then
          if c = '\t' && cursor.column < least then none else read? least fuel gap cursor.skip
        else read? least fuel { gap with blanks := gap.blanks ++ [c] } cursor.skip
      | [] => some (gap, cursor)

end Gap

/-! ### Plain texts -/

/-- Whether a character ends a plain text inside brackets. -/
def isFlowMark (c : Char) : Bool :=
  c = ',' || c = '[' || c = ']' || c = '\x7b' || c = '\x7d'

/-- The part of a plain text up to the next blank, break or mark. Inside brackets a colon
must not stand before a mark. -/
def plainWord? (inFlow : Bool) : List Char → Option (List Char)
  | [] => some []
  | c :: rest =>
    if isBlank c || isBreak c then some []
    else if inFlow && c = ':' && (rest.head?.any fun d => isFlowMark d || d = '?') then none
    else if c = ':' && endsWord rest then some []
    else if inFlow && isFlowMark c then some []
    else (c :: ·) <$> plainWord? inFlow rest

/-- A plain text that was read. -/
structure PlainText where
  /-- The text. -/
  text : List Char
  /-- Whether the place behind it is in a later line. -/
  brokeLine : Bool
  /-- The place behind it. -/
  next : Cursor

/-- Reads a plain text onto the part that was read so far in reverse, and the gap behind
that. Outside brackets its lines have to be indented. -/
def plainText? (inFlow : Bool) (least : Int) :
    Nat → List Char → Gap → Cursor → Option PlainText
  | 0, _, _, _ => none
  | fuel + 1, seen, gap, cursor =>
    let ended : PlainText := ⟨seen.reverse, gap.hasBreak, cursor⟩
    if cursor.atDocumentMark || cursor.rest.head? = some '#' then some ended
    else do
      let word ← plainWord? inFlow cursor.rest
      let next := cursor.skipMany word.length
      let (seen, gap) := if word.isEmpty then (seen, gap)
        else (word.reverse ++ gap.text.reverse ++ seen, {})
      let ended : PlainText := ⟨seen.reverse, gap.hasBreak, next⟩
      match next.rest with
      | [] => some ended
      | c :: _ =>
        if !isBlank c && !isBreak c then some ended
        else do
          let (gap, next) ← gap.read? least (fuel + 1) next
          if !inFlow && next.column < least then some ⟨seen.reverse, gap.hasBreak, next⟩
          else plainText? inFlow least fuel seen gap next

/-! ### Quoted texts -/

/-- The character that a short escape stands for. -/
def shortEscape? : Char → Option Char
  | '0' => some '\x00'
  | 'a' => some '\x07'
  | 'b' => some '\x08'
  | 't' => some '\t'
  | '\t' => some '\t'
  | 'n' => some '\n'
  | 'v' => some '\x0B'
  | 'f' => some '\x0C'
  | 'r' => some '\r'
  | 'e' => some '\x1B'
  | ' ' => some ' '
  | '"' => some '"'
  | '/' => some '/'
  | '\\' => some '\\'
  | 'N' => some '\u0085'
  | '_' => some '\u00A0'
  | 'L' => some '\u2028'
  | 'P' => some '\u2029'
  | _ => none

/-- How many digits follow the letter of an escape by code point. -/
def escapeDigits? : Char → Option Nat
  | 'x' => some 2
  | 'u' => some 4
  | 'U' => some 8
  | _ => none

/-- The character that an escape stands for, and its length without the backslash. -/
def escape? : List Char → Option (Char × Nat)
  | [] => none
  | letter :: rest =>
    match escapeDigits? letter with
    | some count => do
      let digits := rest.take count
      let code ← Number.natural? 16 digits
      if digits.length = count && code.isValidChar then some (Char.ofNat code, count + 1) else none
    | none => (shortEscape? letter).map (·, 1)

/-- Why a part of a quoted text ends. -/
inductive QuotedEnd where
  /-- A blank, a break, the closing quote or the end of the whole text follows. -/
  | word
  /-- A backslash stood before a line break, which is dropped. -/
  | line

/-- The part of a quoted text up to the next blank or break, in reverse, and the place
behind it. -/
def quotedWord? (quote : Char) :
    Nat → List Char → Cursor → Option (List Char × QuotedEnd × Cursor)
  | 0, _, _ => none
  | fuel + 1, seen, cursor =>
    match cursor.rest with
    | [] => some (seen, .word, cursor)
    | c :: rest =>
      if isBlank c || isBreak c then some (seen, .word, cursor)
      else if c = quote then
        if c = '\'' && rest.head? = some '\'' then
          quotedWord? quote fuel (c :: seen) (cursor.skipMany 2)
        else some (seen, .word, cursor)
      else if quote = '"' && c = '\\' then
        if rest.head?.any isBreak then some (seen, .line, cursor.skip.skipBreak)
        else
          match escape? rest with
          | some (c, length) =>
            quotedWord? quote fuel (c :: seen) (cursor.skipMany (length + 1))
          | none => none
      else quotedWord? quote fuel (c :: seen) cursor.skip

/-- Reads a quoted text up to its closing quote, onto the part read so far in reverse. -/
def quotedText? (quote : Char) : Nat → List Char → Cursor → Option (List Char × Cursor)
  | 0, _, _ => none
  | fuel + 1, seen, cursor =>
    if cursor.atDocumentMark || cursor.rest.isEmpty then none
    else do
      let (seen, ending, next) ← quotedWord? quote (fuel + 1) seen cursor
      if next.rest.head? = some quote then some (seen.reverse, next.skip)
      else
        let gap : Gap := match ending with
          | .word => {}
          | .line => { hasBreak := true }
        let (gap, next) ← gap.read? 0 (fuel + 1) next
        quotedText? quote fuel (gap.text.reverse ++ seen) next

/-! ### Blocks -/

/-- What becomes of the line breaks at the end of a block. -/
inductive Chomping where
  /-- The last one is kept. -/
  | clip
  /-- None is kept. -/
  | strip
  /-- All are kept. -/
  | keep
  deriving DecidableEq

/-- How a block is to be read. -/
structure BlockHeader where
  /-- What becomes of the line breaks at its end. -/
  chomping : Chomping := .clip
  /-- By how much its lines are indented, if that is said. -/
  indentation : Option Nat := none

/-- The chomping that a character stands for. -/
def chomping? : Char → Option Chomping
  | '+' => some .keep
  | '-' => some .strip
  | _ => none

/-- The indentation that a character stands for; zero is not allowed. -/
def indentation? (c : Char) : Option (Option Nat) :=
  if Number.isDigit c then some (if c = '0' then none else some (c.toNat - '0'.toNat)) else none

/-- The header of a block, and the place behind it in its line. -/
def blockHeader? (cursor : Cursor) : Option (BlockHeader × Cursor) :=
  match cursor.rest with
  | [] => some ({}, cursor)
  | c :: rest =>
    match chomping? c with
    | some chomping =>
      match rest.head?.bind indentation? with
      | some none => none
      | some (some n) => some ({ chomping, indentation := some n }, cursor.skipMany 2)
      | none => some ({ chomping }, cursor.skip)
    | none =>
      match indentation? c with
      | some none => none
      | some (some n) =>
        match rest.head?.bind chomping? with
        | some chomping => some ({ chomping, indentation := some n }, cursor.skipMany 2)
        | none => some ({ indentation := some n }, cursor.skip)
      | none => some ({}, cursor)

/-- Reads the empty lines before a line of a block. As long as the indentation is not
known all spaces are part of it; a tab among them is not allowed. The results are what
the breaks stand for, the greatest indentation and the place behind it. -/
def emptyLines? (indentation : Option Nat) :
    Nat → List Char → Nat → Cursor → Option (List Char × Nat × Cursor)
  | 0, _, _, _ => none
  | fuel + 1, breaks, greatest, cursor =>
    let spaces := (cursor.rest.takeWhile (· = ' ')).length
    let next := cursor.skipMany (match indentation with
      | some n => min spaces (n - cursor.column)
      | none => spaces)
    let greatest := max greatest next.column
    let inside := match indentation with
      | some n => next.column < n
      | none => true
    if inside && next.rest.head? = some '\t' then none
    else
      match next.takeBreak? with
      | some (c, next) => emptyLines? indentation fuel (breaks ++ [c]) greatest next
      | none => some (breaks, greatest, next)

/-- Reads the lines of a block onto the text read so far in reverse. The break behind
the last line and the ones after it are still to be added. -/
def blockLines? (isFolded : Bool) (indentation : Nat) (chomping : Chomping) :
    Nat → List Char → Option Char → List Char → Bool → Cursor → Option (List Char × Cursor)
  | 0, _, _, _, _, _ => none
  | fuel + 1, seen, lineBreak, breaks, afterBlank, cursor =>
    if cursor.column = indentation && !cursor.rest.isEmpty then
      let startsBlank := cursor.rest.head?.any isBlank
      let joint := if isFolded && lineBreak = some '\n' && !afterBlank && !startsBlank then
          Gap.fold lineBreak breaks
        else lineBreak.toList ++ breaks
      let (line, next) := cursor.takeWhile fun c => !isBreak c
      let seen := line.reverse ++ joint.reverse ++ seen
      let (lineBreak, next) := match next.takeBreak? with
        | some (c, next) => (some c, next)
        | none => (none, next)
      match emptyLines? (some indentation) (fuel + 1) [] 0 next with
      | some (breaks, _, next) =>
        blockLines? isFolded indentation chomping fuel seen lineBreak breaks startsBlank next
      | none => none
    else
      let ending := match chomping with
        | .strip => []
        | .clip => lineBreak.toList
        | .keep => lineBreak.toList ++ breaks
      some (seen.reverse ++ ending, cursor)

/-- Reads a block behind its mark, inside a part with the given indentation. -/
def blockText? (isFolded : Bool) (indent : Int) (fuel : Nat) (cursor : Cursor) :
    Option (List Char × Cursor) := do
  let (header, next) ← blockHeader? cursor
  let next ← next.endLine?
  let fixed := header.indentation.map fun n => n + indent.toNat
  let (breaks, greatest, next) ← emptyLines? fixed fuel [] 0 next
  let indentation := fixed.getD (max greatest (indent + 1).toNat |>.max 1)
  blockLines? isFolded indentation header.chomping fuel [] none breaks false next

end LogForwarding.Yaml
