import StepRecorder.Text.Numeral

/-!
Control characters (the Unicode general category Cc) and the escapes that keep a text on one line:
`\n`, `\r` and `\t` as two characters, any other control character as its code point in `\u` and
braces.
-/

namespace StepRecorder.Text

/-- The category Cc. -/
def isControl (c : Char) : Bool := c.toNat < 0x20 || (0x7F ≤ c.toNat && c.toNat ≤ 0x9F)

/-- A code point written in hexadecimal between braces, after a backslash and `u`. -/
def braced (c : Char) : Text := ['\\', 'u', '\x7b'] ++ hexadecimal c.toNat ++ ['\x7d']

/-- One character of an escaped text. -/
def escapeControl (c : Char) : Text :=
  if c = '\n' then ['\\', 'n']
  else if c = '\r' then ['\\', 'r']
  else if c = '\t' then ['\\', 't']
  else if isControl c then braced c
  else [c]

/-- A text with its control characters escaped. -/
def escapeControls (text : Text) : Text := text.flatMap escapeControl

end StepRecorder.Text
