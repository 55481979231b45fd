import StepRecorder.Yaml.Cursor

/-!
Gaps within scalars that run over lines. Gaps on one line are kept. A single line break is read as
a space, more of them as all but the first; the gaps around breaks are dropped.
-/

namespace StepRecorder.Yaml

/-- A gap between two words of a scalar. -/
structure Fold where
  /-- The spaces and tabs, as long as no break is among them. -/
  gaps : Text := []
  /-- What the first break is read as. -/
  first : Text := []
  /-- What the further breaks are read as. -/
  further : Text := []
  /-- Whether a new line has begun. -/
  broken : Bool := false

namespace Fold

/-- What a gap is read as. -/
def joined (fold : Fold) : Text :=
  if !fold.broken then fold.gaps
  else if fold.first.head? = some '\n' then
    if fold.further.isEmpty then [' '] else fold.further
  else fold.first ++ fold.further

/-- A gap with one more space or tab. -/
def addGap (fold : Fold) (c : Char) : Fold :=
  if fold.broken then fold else { fold with gaps := fold.gaps ++ [c] }

/-- A gap with one more break. -/
def addBreak (fold : Fold) (text : Text) : Fold :=
  if fold.broken then { fold with further := fold.further ++ text }
  else { fold with gaps := [], first := text, broken := true }

/-- Past the gaps and breaks that are next. A tab may not stand before the column `limit` of a line
that has begun. -/
def scan (limit : Nat) : Nat → Fold → Cursor → Option (Fold × Cursor)
  | 0, _, _ => none
  | bound + 1, fold, cursor =>
    match cursor.rest with
    | [] => some (fold, cursor)
    | c :: _ =>
      if isGap c then
        if fold.broken && cursor.column < limit && c == '\t' then none
        else scan limit bound (fold.addGap c) (cursor.advance 1)
      else if isBreak c then
        let (text, cursor) := cursor.lineBreak
        scan limit bound (fold.addBreak text) cursor
      else some (fold, cursor)

end Fold
end StepRecorder.Yaml
