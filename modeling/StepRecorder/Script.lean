import StepRecorder.Text.Blank
import StepRecorder.Text.Digit
import StepRecorder.Text.Line
import StepRecorder.Text.Numeral

/-!
Scripts: the plain text that a replay follows, a step a line.

    Open Browser                     in either case
    Navigate to <url>
    Verify <name> is visible
    Tap on <name>
    Type <text> in <name>            split at the last " in " that leaves both parts
    Wait for <digits>[ second[s]]

Lines are trimmed; blank lines and lines that start with `#` are passed over. The first line that
is no step is an error, which tells its number.
-/

namespace StepRecorder

/-- One step of a script. -/
inductive Step where
  | openBrowser
  | navigate (url : Text)
  | verify (name : Text)
  | tap (name : Text)
  | enter (text name : Text)
  | wait (seconds : Nat)
  deriving Repr, DecidableEq

namespace Step

/-- The name of the element that a step refers to. -/
def elementName? : Step → Option Text
  | .verify name => some name
  | .tap name => some name
  | .enter _ name => some name
  | _ => none

/-- Why a line is no step. -/
inductive Fault where
  /-- It has none of the forms. -/
  | unrecognized
  /-- It is a wait whose digits are no number of 64 bits. -/
  | invalidWait (digits : Text)
  deriving Repr, DecidableEq

/-- What stands, not empty, after a given beginning. -/
def tail? (lead line : Text) : Option Text :=
  (Text.after? lead line).bind fun rest => if rest.isEmpty then none else some rest

/-- What stands, not empty, before a given ending. -/
def head? (ending line : Text) : Option Text := (tail? ending.reverse line.reverse).map List.reverse

/-- The parts of a line around the last separator that leaves neither of them empty. -/
def splitLast? (separator : Text) : Text → Option (Text × Text)
  | [] => none
  | c :: rest =>
    match splitLast? separator rest with
    | some (left, right) => some (c :: left, right)
    | none => (tail? separator rest).map fun right => ([c], right)

/-- What may follow the digits of a wait. -/
def waitUnits : List Text := [[], " second".toList, " seconds".toList]

/-- The digits of a wait. -/
def waitDigits? (line : Text) : Option Text := do
  let rest ← Text.after? "Wait for ".toList line
  let digits := rest.takeWhile Text.isDigit
  if digits.isEmpty then none
  else if rest.dropWhile Text.isDigit ∈ waitUnits then some digits
  else none

/-- Whether a line opens the browser. -/
def isOpenBrowser (line : Text) : Bool := line.map Char.toLower = "open browser".toList

/-- The step of a trimmed line. -/
def ofLine (line : Text) : Except Fault Step :=
  if isOpenBrowser line then .ok .openBrowser
  else if let some url := tail? "Navigate to ".toList line then .ok (.navigate (Text.trim url))
  else if let some name := (tail? "Verify ".toList line).bind (head? " is visible".toList) then
    .ok (.verify (Text.trim name))
  else if let some name := tail? "Tap on ".toList line then .ok (.tap (Text.trim name))
  else if let some (text, name) :=
      (Text.after? "Type ".toList line).bind (splitLast? " in ".toList) then
    .ok (.enter (Text.trim text) (Text.trim name))
  else if let some digits := waitDigits? line then
    match Text.word? digits with
    | some seconds => .ok (.wait seconds)
    | none => .error (.invalidWait digits)
  else .error .unrecognized

end Step

namespace Script

/-- A step and the number of its line, counted from 1. -/
structure Placed where
  line : Nat
  step : Step
  deriving Repr, DecidableEq

/-- Why a text is no script. -/
inductive Error where
  | unrecognized (line : Nat) (content : Text)
  | invalidWait (line : Nat) (digits : Text)
  deriving Repr, DecidableEq

/-- The wording of an error. -/
def Error.message : Error → Text
  | .unrecognized line content =>
    "line ".toList ++ Text.decimal line ++ ": unrecognized step '".toList ++ content ++ "'".toList
  | .invalidWait line digits =>
    "line ".toList ++ Text.decimal line ++ ": invalid wait duration '".toList ++ digits ++
      "'".toList

/-- Whether a trimmed line is passed over. -/
def isSkipped (line : Text) : Bool := line.isEmpty || line.head? = some '#'

/-- The error of a line that is no step. -/
def errorAt (line : Nat) (content : Text) : Step.Fault → Error
  | .unrecognized => .unrecognized line content
  | .invalidWait digits => .invalidWait line digits

/-- The steps of lines, the first of which has a given number. -/
def ofLines (number : Nat) : List Text → Except Error (List Placed)
  | [] => .ok []
  | line :: lines =>
    let content := Text.trim line
    if isSkipped content then ofLines (number + 1) lines
    else
      match Step.ofLine content with
      | .error fault => .error (errorAt number content fault)
      | .ok step =>
        match ofLines (number + 1) lines with
        | .error error => .error error
        | .ok steps => .ok (⟨number, step⟩ :: steps)

/-- The steps of a script. -/
def parse (text : Text) : Except Error (List Placed) := ofLines 1 (Text.lines text)

end Script
end StepRecorder
