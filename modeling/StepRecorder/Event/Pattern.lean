import StepRecorder.Text.Blank

/-!
The shapes by which a line shows an event. Each recognizer looks at one place of a line and yields
the text it captures there:

    "value" : "//..."          a member whose string starts with two slashes
    "ELEMENT" : "..."          a member with one of the two element keys
    "text" : "..."
    /element/<id>/click        a path with an id between two fixed parts
    /element/<id>/value

Blanks around the colon are passed over. Captured strings are bodies of literals, escapes and all.
-/

namespace StepRecorder.Event.Pattern

/-- The body of a literal up to the quote that ends it. Only a backslash is looked at: it protects
the character after it, which may not be a line feed. -/
def body? : Text → Option Text
  | [] => none
  | '"' :: _ => some []
  | ['\\'] => none
  | '\\' :: c :: rest => if c = '\n' then none else (body? rest).map fun body => '\\' :: c :: body
  | c :: rest => (body? rest).map (c :: ·)

/-- What follows the opening quote of the string under a key that starts here. -/
def stringUnder? (key : Text) (text : Text) : Option Text := do
  let text ← Text.after? ('"' :: key ++ ['"']) text
  let text ← Text.after? [':'] (Text.trimStart text)
  Text.after? ['"'] (Text.trimStart text)

/-- The body of the string under a key that starts here, if it is not empty. -/
def filledUnder? (key : Text) (text : Text) : Option Text := do
  let body ← body? (← stringUnder? key text)
  if body.isEmpty then none else some body

/-- The key of a locator. -/
def locatorKey : Text := "value".toList

/-- The key of an element reference by the standard. -/
def elementKey : Text := "element-6066-11e4-a52e-4f735466cecf".toList

/-- The key of an element reference before the standard. -/
def olderElementKey : Text := "ELEMENT".toList

/-- The key of a typed text. -/
def typedKey : Text := "text".toList

/-- A locator: the string under its key, if it starts with two slashes. -/
def locator? (text : Text) : Option Text := do
  let text ← stringUnder? locatorKey text
  let _ ← Text.after? ['/', '/'] text
  body? text

/-- An element reference: a string under one of the two keys. -/
def element? (text : Text) : Option Text :=
  (filledUnder? elementKey text).or (filledUnder? olderElementKey text)

/-- A typed text. -/
def typed? (text : Text) : Option Text := filledUnder? typedKey text

/-- The characters of an id in a path. -/
def isIdChar (c : Char) : Bool := c ≠ '/' && c ≠ '"' && c ≠ '?' && !Text.isBlank c

/-- The id in a path that ends with a command. -/
def command? (command : Text) (text : Text) : Option Text := do
  let text ← Text.after? "/element/".toList text
  let id := text.takeWhile isIdChar
  let _ ← Text.after? ('/' :: command) (text.dropWhile isIdChar)
  if id.isEmpty then none else some id

/-- The id of a clicked element. -/
def click? : Text → Option Text := command? "click".toList

/-- The id of an element that is about to receive text. -/
def target? : Text → Option Text := command? "value".toList

end StepRecorder.Event.Pattern
