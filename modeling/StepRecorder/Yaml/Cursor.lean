import StepRecorder.Text.Numeral
import StepRecorder.Text.Utf8

/-!
Places in a YAML stream, and the classes of characters that its layout is made of. A cursor holds
what is left of the stream and where that starts; it moves by characters within a line and by whole
line breaks between lines. Columns are counted in characters, and what lies before a place is
counted in bytes.
-/

namespace StepRecorder.Yaml

/-- The characters that a stream may hold. -/
def isAllowed (c : Char) : Bool :=
  let n := c.toNat
  n = 0x09 || n = 0x0A || n = 0x0D || (0x20 ≤ n && n ≤ 0x7E) || n = 0x85 ||
  (0xA0 ≤ n && n ≤ 0xFFFD) || 0x10000 ≤ n

/-- The mark that a line may start with. It takes a column, but no part in the layout. -/
def byteOrderMark : Char := '\uFEFF'

/-- Spaces and tabs. -/
def isGap (c : Char) : Bool := c = ' ' || c = '\t'

/-- The characters that end a line. -/
def isBreak (c : Char) : Bool :=
  c = '\r' || c = '\n' || c = '\u0085' || c = '\u2028' || c = '\u2029'

/-- The characters of the names of anchors, directives and tags. -/
def isWord (c : Char) : Bool := c.isAlphanum || c = '_' || c = '-'

/-- Whether a text is empty or starts with a gap or a break. -/
def isOpen : Text → Bool
  | [] => true
  | c :: _ => isGap c || isBreak c

/-- Whether a text is empty or starts with a break. -/
def isLineEnd : Text → Bool
  | [] => true
  | c :: _ => isBreak c

/-- What is left of a stream, and where it starts. -/
structure Cursor where
  rest : Text
  /-- How many bytes lie before it. -/
  index : Nat := 0
  line : Nat := 0
  column : Nat := 0

namespace Cursor

/-- The next character. -/
def head? (cursor : Cursor) : Option Char := cursor.rest.head?

/-- Whether the next character is a given one. -/
def at? (cursor : Cursor) (c : Char) : Bool := cursor.rest.head? == some c

/-- The number of bytes before the place that is `n` characters further. -/
def indexAfter (cursor : Cursor) (n : Nat) : Nat :=
  cursor.index + (Text.encode (cursor.rest.take n)).length

/-- Past a number of characters of a line. -/
def advance (cursor : Cursor) (n : Nat) : Cursor :=
  { cursor with
    rest := cursor.rest.drop n, index := cursor.indexAfter n, column := cursor.column + n }

/-- Past the characters of a class, which are on one line; with them, those characters. -/
def span (cursor : Cursor) (isIn : Char → Bool) : Text × Cursor :=
  let taken := cursor.rest.takeWhile isIn
  (taken, cursor.advance taken.length)

/-- Past the characters of a class. -/
def skipWhile (cursor : Cursor) (isIn : Char → Bool) : Cursor := (cursor.span isIn).2

/-- Past a line break, if one is next; with it, what the break is read as. -/
def lineBreak (cursor : Cursor) : Text × Cursor :=
  let next (n : Nat) : Cursor :=
    { rest := cursor.rest.drop n, index := cursor.indexAfter n, line := cursor.line + 1 }
  match cursor.rest with
  | '\r' :: '\n' :: _ => (['\n'], next 2)
  | c :: _ =>
    if c = '\u2028' || c = '\u2029' then ([c], next 1)
    else if isBreak c then (['\n'], next 1)
    else ([], cursor)
  | [] => ([], cursor)

/-- Past a line break, if one is next. -/
def skipBreak (cursor : Cursor) : Cursor := cursor.lineBreak.2

/-- Whether a line starts here with three characters that stand alone. -/
def atMark (cursor : Cursor) (mark : Text) : Bool :=
  cursor.column == 0 && ((Text.after? mark cursor.rest).map isOpen).getD false

/-- The mark that starts a document. -/
def startMark : Text := "---".toList

/-- The mark that ends a document. -/
def endMark : Text := "...".toList

/-- Whether a line starts here with a mark of a document. -/
def atDocumentMark (cursor : Cursor) : Bool := cursor.atMark startMark || cursor.atMark endMark

/-- Past the gaps, a comment and the break that end a line; nothing where something else stands. -/
def lineRest? (cursor : Cursor) : Option Cursor :=
  let cursor := cursor.skipWhile isGap
  let cursor := if cursor.at? '#' then cursor.skipWhile fun c => !isBreak c else cursor
  if isLineEnd cursor.rest then some cursor.skipBreak else none

end Cursor
end StepRecorder.Yaml
