import StepRecorder.Yaml.Scalar.Block
import StepRecorder.Yaml.Scalar.Plain
import StepRecorder.Yaml.Scalar.Quoted
import StepRecorder.Yaml.Token

/-!
The tokens of a stream. Two things need a look back. A block starts with the first of its keys or
entries, and ends where a line is indented less. And a key is known as one only by the colon after
it: so wherever a key can stand, its place is held, and the mark is put there once the colon comes.

    name: value          key scalar value scalar
    ▲   ▲
    │   └ here the key is known
    └ here it began: the block, if it is a new one, and the mark go here

A key that was held is given up when its line is over, or after 1024 bytes. Where the layout leaves
nothing else for it to be, that is an error.
-/

namespace StepRecorder.Yaml

/-- The place of what may be a key. -/
structure HeldKey where
  /-- Whether it has to be a key. -/
  isRequired : Bool
  /-- How many tokens stand before it. -/
  position : Nat
  index : Nat
  line : Nat
  column : Nat

/-- A stream of which a part is split into tokens. The block that is open at the column `n` has the
level `n + 1`; outside all blocks the level is 0. -/
structure Scanner where
  cursor : Cursor
  /-- The tokens so far, the last one first. -/
  tokens : List Token := []
  level : Nat := 0
  outerLevels : List Nat := []
  /-- Whether a key can start here. -/
  allowsKey : Bool := true
  /-- The key that is held between the innermost brackets. -/
  held : Option HeldKey := none
  /-- The keys that are held around them. -/
  outerHeld : List (Option HeldKey) := []

namespace Scanner

/-- How many bytes a key can have. -/
def maxKeyLength : Nat := 1024

/-- Whether the stream is between brackets. -/
def inFlow (s : Scanner) : Bool := !s.outerHeld.isEmpty

/-- With one more token. -/
def emit (s : Scanner) (token : Token) : Scanner := { s with tokens := token :: s.tokens }

/-- With one more token, which stands after the first `position` ones. -/
def insert (s : Scanner) (position : Nat) (token : Token) : Scanner :=
  let later := s.tokens.length - position
  { s with tokens := s.tokens.take later ++ token :: s.tokens.drop later }

/-- With a token that is `n` characters long. -/
def take (s : Scanner) (n : Nat) (token : Token) : Scanner :=
  { s.emit token with cursor := s.cursor.advance n }

/-- Whether the time of a held key is over. -/
def isStale (s : Scanner) (key : HeldKey) : Bool :=
  key.line < s.cursor.line || key.index + maxKeyLength < s.cursor.index

/-- A held key, unless its time is over; that it had to be a key is an error. -/
def refresh (s : Scanner) : Option HeldKey → Option (Option HeldKey)
  | none => some none
  | some key =>
    if !s.isStale key then some (some key) else if key.isRequired then none else some none

/-- Without the held keys whose time is over. -/
def dropStale (s : Scanner) : Option Scanner := do
  let held ← s.refresh s.held
  let outerHeld ← s.outerHeld.mapM s.refresh
  some { s with held, outerHeld }

/-- Without the key that is held between the innermost brackets. -/
def dropHeld (s : Scanner) : Option Scanner :=
  if (s.held.map (·.isRequired)).getD false then none else some { s with held := none }

/-- Holds the place of what may be a key. -/
def hold (s : Scanner) : Option Scanner :=
  if !s.allowsKey then some s
  else do
    let s ← s.dropHeld
    let isRequired := !s.inFlow && s.level = s.cursor.column + 1
    let key : HeldKey :=
      ⟨isRequired, s.tokens.length, s.cursor.index, s.cursor.line, s.cursor.column⟩
    some { s with held := some key }

/-- Opens a block at a column, unless one is open there or further right; its start stands after the
first `position` tokens. -/
def openBlock (s : Scanner) (column position : Nat) (token : Token) : Scanner :=
  if s.inFlow || column + 1 ≤ s.level then s
  else { s.insert position token with level := column + 1, outerLevels := s.level :: s.outerLevels }

/-- Closes blocks down to a level. -/
def closeLevels (level : Nat) : List Nat → Nat → List Token → List Token × Nat × List Nat
  | [], current, tokens => (tokens, current, [])
  | outer :: levels, current, tokens =>
    if level < current then closeLevels level levels outer (.blockEnd :: tokens)
    else (tokens, current, outer :: levels)

/-- Closes the blocks above a level. Between brackets, indentation does not matter. -/
def closeBlocks (s : Scanner) (level : Nat) : Scanner :=
  if s.inFlow then s
  else
    let (tokens, level, outerLevels) := closeLevels level s.outerLevels s.level s.tokens
    { s with tokens, level, outerLevels }

/-- Past gaps, comments, empty lines and the mark that a line starts with. A tab is a gap only where
no key can start. -/
def skipGaps : Nat → Scanner → Scanner
  | 0, s => s
  | bound + 1, s =>
    let cursor :=
      if s.cursor.column = 0 && s.cursor.at? byteOrderMark then s.cursor.advance 1 else s.cursor
    let cursor := cursor.skipWhile fun c =>
      c = ' ' || ((s.inFlow || !s.allowsKey) && c = '\t')
    let cursor := if cursor.at? '#' then cursor.skipWhile fun c => !isBreak c else cursor
    if (cursor.head?.map isBreak).getD false then
      skipGaps bound
        { s with cursor := cursor.skipBreak, allowsKey := s.allowsKey || !s.inFlow }
    else { s with cursor }

/-- A directive or a mark closes all blocks, and no key can follow it on its line. -/
def topLevel (s : Scanner) : Option Scanner := do
  let s ← (s.closeBlocks 0).dropHeld
  some { s with allowsKey := false }

/-- Past a number of a version: one to nine digits. -/
def versionNumber? (cursor : Cursor) : Option (Nat × Cursor) := do
  let (digits, cursor) := cursor.span Char.isDigit
  if digits.length ≤ 9 then some (← Text.word? digits, cursor) else none

/-- Past what follows the name of a version directive. -/
def version? (cursor : Cursor) : Option (Token × Cursor) := do
  let (major, cursor) ← versionNumber? (cursor.skipWhile isGap)
  if !cursor.at? '.' then none
  else
    let (minor, cursor) ← versionNumber? (cursor.advance 1)
    some (.version major minor, cursor)

/-- Past what follows the name of a tag directive. -/
def tagDirective? (cursor : Cursor) : Option (Token × Cursor) := do
  let (handle, cursor) ← Tag.handle? (cursor.skipWhile isGap)
  if handle ≠ ['!'] && !Tag.isNamed handle then none
  else if !(cursor.head?.map isGap).getD false then none
  else
    let (lead, cursor) ← Tag.suffix? true (cursor.skipWhile isGap)
    if isOpen cursor.rest then some (.tagDirective handle lead, cursor) else none

/-- A directive: a percent sign, a name and what it says. -/
def directive (s : Scanner) : Option Scanner := do
  let s ← s.topLevel
  let (name, cursor) := (s.cursor.advance 1).span isWord
  if name.isEmpty || !isOpen cursor.rest then none
  else
    let (token, cursor) ←
      if name = "YAML".toList then version? cursor
      else if name = "TAG".toList then tagDirective? cursor
      else none
    some { s.emit token with cursor := ← cursor.lineRest? }

/-- The start of brackets. -/
def openFlow (s : Scanner) (token : Token) : Option Scanner := do
  let s ← s.hold
  some { s.take 1 token with allowsKey := true, held := none, outerHeld := s.held :: s.outerHeld }

/-- The end of brackets. -/
def closeFlow (s : Scanner) (token : Token) : Option Scanner := do
  let s ← s.dropHeld
  let s := match s.outerHeld with
    | [] => s
    | held :: outerHeld => { s with held, outerHeld }
  some { s.take 1 token with allowsKey := false }

/-- A comma. -/
def comma (s : Scanner) : Option Scanner := do
  let s ← s.dropHeld
  some { s.take 1 .comma with allowsKey := true }

/-- The dash before an entry. -/
def entry (s : Scanner) : Option Scanner := do
  if !s.inFlow && !s.allowsKey then none
  else
    let s ← (s.openBlock s.cursor.column s.tokens.length .blockSequence).dropHeld
    some { s.take 1 .entry with allowsKey := true }

/-- The question mark before a key. -/
def explicitKey (s : Scanner) : Option Scanner := do
  if !s.inFlow && !s.allowsKey then none
  else
    let s ← (s.openBlock s.cursor.column s.tokens.length .blockMapping).dropHeld
    some { s.take 1 .key with allowsKey := !s.inFlow }

/-- The colon before a value. What was held before it is a key. -/
def value (s : Scanner) : Option Scanner :=
  match s.held with
  | some key =>
    let s := (s.insert key.position .key).openBlock key.column key.position .blockMapping
    some { s.take 1 .value with held := none, allowsKey := false }
  | none =>
    if !s.inFlow && !s.allowsKey then none
    else
      let s := s.openBlock s.cursor.column s.tokens.length .blockMapping
      some { s.take 1 .value with allowsKey := !s.inFlow }

/-- What may follow the name of an anchor. -/
def endsName (rest : Text) : Bool :=
  isOpen rest || (rest.head?.map fun c => "?:,]\x7d%@\x60".toList.contains c).getD false

/-- An anchor, or an alias of one. -/
def anchor (s : Scanner) (make : Text → Token) : Option Scanner := do
  let s ← s.hold
  let (name, cursor) := (s.cursor.advance 1).span isWord
  if name.isEmpty || !endsName cursor.rest then none
  else some { s.emit (make name) with cursor, allowsKey := false }

/-- A tag. -/
def tag (s : Scanner) : Option Scanner := do
  let s ← s.hold
  let (tag, cursor) ← Tag.scan? s.inFlow s.cursor
  some { s.emit (.tag tag) with cursor, allowsKey := false }

/-- A block scalar. -/
def blockScalar (s : Scanner) (folded : Bool) : Option Scanner := do
  let s ← s.dropHeld
  let (text, cursor) ← Block.scan folded s.level s.cursor
  let style := if folded then Style.folded else Style.literal
  some { s.emit (.scalar style text) with cursor, allowsKey := true }

/-- A scalar between quotes. -/
def quotedScalar (s : Scanner) (quote : Char) : Option Scanner := do
  let s ← s.hold
  let (text, cursor) ← Quoted.scan quote s.cursor
  some { s.emit (.scalar .quoted text) with cursor, allowsKey := false }

/-- A plain scalar. A key can follow it if it ends with a line. -/
def plainScalar (s : Scanner) : Option Scanner := do
  let s ← s.hold
  let (text, broken, cursor) ← Plain.scan s.inFlow s.level s.cursor
  some { s.emit (.scalar .plain text) with cursor, allowsKey := broken }

/-- Whether a plain scalar can start with a character that is followed by `rest`. -/
def startsPlain (inFlow : Bool) (c : Char) (rest : Text) : Bool :=
  if c = '-' then !(rest.head?.map isGap).getD false
  else if c = '?' || c = ':' then !inFlow && !isOpen rest
  else !isGap c && !",[]\x7b\x7d#&*!|>\x27\"%@\x60".toList.contains c

/-- The next token, which starts with `c`. -/
def next (s : Scanner) (c : Char) (rest : Text) : Option Scanner :=
  let alone := s.inFlow || isOpen rest
  if s.cursor.column = 0 && c = '%' then s.directive
  else if s.cursor.atMark Cursor.startMark then s.topLevel.map fun s => s.take 3 .documentStart
  else if s.cursor.atMark Cursor.endMark then s.topLevel.map fun s => s.take 3 .documentEnd
  else if c = '[' then s.openFlow .flowSequence
  else if c = '\x7b' then s.openFlow .flowMapping
  else if c = ']' then s.closeFlow .flowSequenceEnd
  else if c = '\x7d' then s.closeFlow .flowMappingEnd
  else if c = ',' then s.comma
  else if c = '-' && isOpen rest then s.entry
  else if c = '?' && alone then s.explicitKey
  else if c = ':' && alone then s.value
  else if c = '*' then s.anchor .alias
  else if c = '&' then s.anchor .anchor
  else if c = '!' then s.tag
  else if c = '|' && !s.inFlow then s.blockScalar false
  else if c = '>' && !s.inFlow then s.blockScalar true
  else if c = '\x27' || c = '"' then s.quotedScalar c
  else if startsPlain s.inFlow c rest then s.plainScalar
  else none

/-- All tokens up to the end of the stream. -/
def run : Nat → Scanner → Option (List Token)
  | 0, _ => none
  | bound + 1, s => do
    let s ← (skipGaps (s.cursor.rest.length + 1) s).dropStale
    let s := s.closeBlocks (s.cursor.column + 1)
    match s.cursor.rest with
    | [] => some (← (s.closeBlocks 0).dropHeld).tokens.reverse
    | c :: rest => run bound (← s.next c rest)

end Scanner

namespace Token

/-- The tokens of a stream. -/
def scan? (stream : Text) : Option (List Token) :=
  if stream.all isAllowed then
    Scanner.run (stream.length + 1) { cursor := { rest := stream } }
  else none

end Token
end StepRecorder.Yaml
