import StepRecorder.Yaml.Scalar.Fold

/-!
Plain scalars: words without quotes. Such a scalar ends before a colon that stands alone, before a
comment, before a mark of a document, where a line is indented too little and, between brackets,
before a comma or a bracket.
-/

namespace StepRecorder.Yaml.Plain

/-- The characters that end a plain scalar between brackets. -/
def isFlowEnd (c : Char) : Bool := c = ',' || c = '[' || c = ']' || c = '\x7b' || c = '\x7d'

/-- Whether a colon before this text is an error between brackets. -/
def isStuck (rest : Text) : Bool := (rest.head?.map fun c => isFlowEnd c || c = '?').getD false

/-- The word that a text starts with. -/
def word? (inFlow : Bool) : Text → Option Text
  | [] => some []
  | c :: rest =>
    if isGap c || isBreak c then some []
    else if inFlow && c = ':' && isStuck rest then none
    else if c = ':' && isOpen rest then some []
    else if inFlow && isFlowEnd c then some []
    else (word? inFlow rest).map (c :: ·)

/-- Past a plain scalar whose lines are indented to the column `indent` at least, after a part of it
and a gap; with it, its text, and whether a new line has begun behind it. -/
def scanFrom (inFlow : Bool) (indent : Nat) :
    Nat → Text → Fold → Cursor → Option (Text × Bool × Cursor)
  | 0, _, _, _ => none
  | bound + 1, text, fold, cursor => do
    if cursor.atDocumentMark || cursor.at? '#' then some (text, fold.broken, cursor)
    else
      let word ← word? inFlow cursor.rest
      let cursor := cursor.advance word.length
      let text := if word.isEmpty then text else text ++ fold.joined ++ word
      let fold : Fold := if word.isEmpty then fold else {}
      if (cursor.head?.map fun c => isGap c || isBreak c).getD false then
        let (fold, cursor) ← Fold.scan indent (cursor.rest.length + 1) fold cursor
        if !inFlow && cursor.column < indent then some (text, fold.broken, cursor)
        else scanFrom inFlow indent bound text fold cursor
      else some (text, fold.broken, cursor)

/-- Past the plain scalar that starts here. -/
def scan (inFlow : Bool) (indent : Nat) (cursor : Cursor) : Option (Text × Bool × Cursor) :=
  scanFrom inFlow indent (cursor.rest.length + 1) [] {} cursor

end StepRecorder.Yaml.Plain
