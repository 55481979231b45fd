import StepRecorder.Text.Control

/-!
Actions: one step of a user's interaction. An action is written as two lines of a script, the
instruction and the wait after it:

    Tap on LoginButton          Type hello in EmailField
    Wait for 2                  Wait for 1

Control characters of a typed text are escaped, so that an action never takes a third line.
-/

namespace StepRecorder

/-- A reconstructed step of interaction. -/
inductive Action where
  | tap (name : Text)
  | enter (text name : Text)
  deriving Repr, DecidableEq

namespace Action

/-- The name of the element that an action is for. -/
def target : Action → Text
  | .tap name => name
  | .enter _ name => name

/-- The seconds to wait after an action. -/
def waitSeconds : Action → Nat
  | .tap _ => 2
  | .enter _ _ => 1

/-- The line that tells what to do. -/
def instruction : Action → Text
  | .tap name => "Tap on ".toList ++ name
  | .enter text name => "Type ".toList ++ Text.escapeControls text ++ " in ".toList ++ name

/-- The line that tells how long to wait. -/
def wait (action : Action) : Text := "Wait for ".toList ++ Text.decimal action.waitSeconds

/-- The two lines of an action. -/
def lines (action : Action) : List Text := [action.instruction, action.wait]

/-- The two lines of an action as one text. -/
def display (action : Action) : Text := Text.join ['\n'] action.lines

/-- What an action adds to a script: each of its lines, ended. -/
def script (action : Action) : Text := action.lines.flatMap fun line => line ++ ['\n']

end Action
end StepRecorder
