import StepRecorder.Text.Basic

/-!
The lines of a text. A line ends with a line feed, which is not part of it, nor is a carriage
return right before it; the text after the last line feed is a line only if it is not empty.
-/

namespace StepRecorder.Text

/-- A line without the carriage return it may end with. -/
def dropReturn (line : Text) : Text :=
  if line.getLast? = some '\r' then line.dropLast else line

/-- The lines of a text that follows the characters `held`, which are kept in reverse. -/
def linesAfter (held : Text) : Text → List Text
  | [] => if held.isEmpty then [] else [held.reverse]
  | c :: rest =>
    if c = '\n' then dropReturn held.reverse :: linesAfter [] rest
    else linesAfter (c :: held) rest

/-- The lines of a text, in order. -/
def lines (text : Text) : List Text := linesAfter [] text

end StepRecorder.Text
