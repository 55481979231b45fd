import StepRecorder.Yaml.Cursor

/-!
Block scalars: the lines that are indented below a `|`, which keeps the line breaks, or a `>`, which
folds them. After that sign the indentation can be given by a digit, and what becomes of the last
line breaks by a plus or a minus.
-/

namespace StepRecorder.Yaml.Block

/-- What becomes of the line breaks at the end. -/
inductive Chomp where
  /-- All are dropped. -/
  | strip
  /-- The first is kept. -/
  | clip
  /-- All are kept. -/
  | keep
  deriving DecidableEq

/-- The sign for the line breaks at the end. -/
def chompOf? : Char → Option Chomp
  | '+' => some .keep
  | '-' => some .strip
  | _ => none

/-- Past the digit that gives the indentation, if one is next; zero is no indentation. -/
def indentDigit? (cursor : Cursor) : Option (Option Nat × Cursor) :=
  match cursor.head? with
  | none => some (none, cursor)
  | some c =>
    if !c.isDigit then some (none, cursor)
    else if c = '0' then none
    else some (some (c.toNat - '0'.toNat), cursor.advance 1)

/-- Past what follows the first sign on its line. -/
def header? (cursor : Cursor) : Option (Chomp × Option Nat × Cursor) := do
  match cursor.head?.bind chompOf? with
  | some chomp =>
    let (indent, cursor) ← indentDigit? (cursor.advance 1)
    some (chomp, indent, cursor)
  | none =>
    let (indent, cursor) ← indentDigit? cursor
    match if indent.isSome then cursor.head?.bind chompOf? else none with
    | some chomp => some (chomp, indent, cursor.advance 1)
    | none => some (.clip, indent, cursor)

/-- Past spaces that are part of the indentation: up to the column `indent`, or all of them. -/
def skipIndent (indent : Option Nat) (cursor : Cursor) : Cursor :=
  let spaces := (cursor.rest.takeWhile (· = ' ')).length
  match indent with
  | none => cursor.advance spaces
  | some indent => cursor.advance (min spaces (indent - cursor.column))

/-- Past empty lines and the indentation of the next line; with it, what the breaks are read as, and
the greatest column reached. A tab may not stand where the indentation is still open. -/
def breaks (indent : Option Nat) : Nat → Text → Nat → Cursor → Option (Text × Nat × Cursor)
  | 0, _, _, _ => none
  | bound + 1, text, reached, cursor =>
    let cursor := skipIndent indent cursor
    let reached := max reached cursor.column
    let isShort := (indent.map fun indent => decide (cursor.column < indent)).getD true
    if isShort && cursor.at? '\t' then none
    else if (cursor.head?.map isBreak).getD false then
      let (taken, cursor) := cursor.lineBreak
      breaks indent bound (text ++ taken) reached cursor
    else some (text, reached, cursor)

/-- A block scalar that is being read: its text, the break after the last line, those of the empty
lines after it, and whether that line starts with a gap. -/
structure Lines where
  text : Text := []
  last : Text := []
  empty : Text
  startsWithGap : Bool := false

/-- The lines with one more. -/
def Lines.add (folded : Bool) (lines : Lines) (line last : Text) : Lines :=
  let gap := (line.head?.map isGap).getD false
  let joint :=
    if folded && lines.last.head? = some '\n' && !lines.startsWithGap && !gap then
      if lines.empty.isEmpty then [' '] else []
    else lines.last
  { text := lines.text ++ joint ++ lines.empty ++ line, last, empty := [], startsWithGap := gap }

/-- Past the lines that are indented to a column. -/
def content (folded : Bool) (indent : Nat) : Nat → Lines → Cursor → Option (Lines × Cursor)
  | 0, _, _ => none
  | bound + 1, lines, cursor => do
    if cursor.column = indent && !cursor.rest.isEmpty then
      let (line, cursor) := cursor.span fun c => !isBreak c
      let (last, cursor) := cursor.lineBreak
      let lines := lines.add folded line last
      let (empty, _, cursor) ← breaks (some indent) (cursor.rest.length + 1) [] 0 cursor
      content folded indent bound { lines with empty } cursor
    else some (lines, cursor)

/-- Past the block scalar that starts here with its sign, within a block that is indented to the
column before `level`. -/
def scan (folded : Bool) (level : Nat) (cursor : Cursor) : Option (Text × Cursor) := do
  let (chomp, given, cursor) ← header? (cursor.advance 1)
  let cursor ← cursor.lineRest?
  let known := given.map fun n => level - 1 + n
  let (empty, reached, cursor) ← breaks known (cursor.rest.length + 1) [] 0 cursor
  let indent := known.getD (max reached (max level 1))
  let (lines, cursor) ← content folded indent (cursor.rest.length + 1) { empty } cursor
  let ending := match chomp with
    | .strip => []
    | .clip => lines.last
    | .keep => lines.last ++ lines.empty
  some (lines.text ++ ending, cursor)

end StepRecorder.Yaml.Block
