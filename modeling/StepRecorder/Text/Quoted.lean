import StepRecorder.Text.Control
import StepRecorder.Text.Printable

/-!
A text between double quotes for a message: quotes and backslashes escaped, characters without a
shape of their own written by their code points.
-/

namespace StepRecorder.Text

/-- One character of a quoted text. -/
def quotedChar (c : Char) : Text :=
  if c = '\x00' then ['\\', '0']
  else if c = '\t' then ['\\', 't']
  else if c = '\r' then ['\\', 'r']
  else if c = '\n' then ['\\', 'n']
  else if c = '"' then ['\\', '"']
  else if c = '\\' then ['\\', '\\']
  else if isPrintable c then [c]
  else braced c

/-- A text between double quotes. -/
def quoted (text : Text) : Text := '"' :: text.flatMap quotedChar ++ ['"']

end StepRecorder.Text
