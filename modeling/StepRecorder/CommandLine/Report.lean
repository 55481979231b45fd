import StepRecorder.Config.Load
import StepRecorder.Recording
import StepRecorder.Script.Check.Files

/-!
What the program prints: the result on one channel and what went wrong on the other. An error comes
with its causes, which are numbered if there are several.
-/

namespace StepRecorder.CommandLine

/-- How the program ends: its exit code, and what it prints on both channels. -/
structure Exit where
  code : Nat
  output : Text := []
  errors : Text := []
  deriving Repr, DecidableEq

/-- An error with what caused it. -/
structure Trouble where
  message : Text
  causes : List Text := []
  deriving Repr, DecidableEq

namespace Trouble

/-- A text whose further lines are indented. -/
def indented (indent : Nat) (text : Text) : Text :=
  text.flatMap fun c => if c = '\n' then '\n' :: List.replicate indent ' ' else [c]

/-- A number at the right end of five places. -/
def numbered (n : Nat) : Text :=
  let digits := Text.decimal n
  List.replicate (5 - digits.length) ' ' ++ digits ++ ": ".toList

/-- The lines of the causes. -/
def causeLines : List Text → List Text
  | [cause] => [List.replicate 4 ' ' ++ indented 4 cause]
  | causes => causes.zipIdx.map fun (cause, n) => numbered n ++ indented 7 cause

/-- The report of an error. -/
def report (trouble : Trouble) : Text :=
  let head := "Error: ".toList ++ trouble.message
  if trouble.causes.isEmpty then head
  else head ++ "\n\nCaused by:\n".toList ++ Text.join ['\n'] (causeLines trouble.causes)

/-- The end of the program with an error. -/
def exit (trouble : Trouble) : Exit := { code := 1, errors := trouble.report ++ ['\n'] }

/-- A configuration cannot be loaded. -/
def ofLoad (error : Config.LoadError) : Trouble :=
  { message := "loading configuration".toList
    causes := error.message :: error.causes }

/-- A recording has failed. -/
def ofFailure (failure : Failure) : Trouble :=
  { message := "recording stopped".toList, causes := [failure.message, failure.cause.message] }

/-- A check cannot be made. -/
def ofCheck (error : Script.FilesError) : Trouble := ⟨error.message, error.causes⟩

end Trouble

/-- The name and the version of the program. -/
def versionText : Text := "scribe 0.1.0\n".toList

/-- How the program is used. -/
def usage : Text :=
  ("Turn an Appium server log into a replayable step script\n\n" ++
    "Usage: scribe [--config FILE] [watch [--log FILE] [--registry FILE] [--steps FILE]\n" ++
    "                                     [--poll-ms N] [--offline]]\n" ++
    "       scribe [--config FILE] check [--registry FILE] [--steps FILE]\n").toList

/-- What is printed at the end of a recording. -/
def summaryText (summary : Summary) : Text :=
  "Recorded ".toList ++ Text.decimal summary.actions ++ " actions and ".toList ++
    Text.decimal summary.bindings ++ " element bindings from ".toList ++
    Text.decimal summary.lines ++ " log lines\n".toList

/-- What is printed if all names of a script were found. -/
def resolvedText (registry steps : Text) (report : Script.Report) : Text :=
  steps ++ ": all ".toList ++ Text.decimal report.steps ++ " steps resolve against ".toList ++
    registry ++ ['\n']

/-- What is printed for a name that was not found. -/
def missingText (steps : Text) (missing : Script.Missing) : Text :=
  steps ++ ':' :: Text.decimal missing.line ++ ": unknown element '".toList ++ missing.name ++
    "'\n".toList

/-- The end of the program after a check. -/
def checkExit (registry steps : Text) : Except Script.FilesError Script.Report → Exit
  | .error error => (Trouble.ofCheck error).exit
  | .ok report =>
    if report.isOk then { code := 0, output := resolvedText registry steps report }
    else { code := 1, output := report.missing.flatMap (missingText steps) }

/-- The end of the program after a recording. -/
def recordingExit : Except Failure Summary → Exit
  | .error failure => (Trouble.ofFailure failure).exit
  | .ok summary => { code := 0, output := summaryText summary }

end StepRecorder.CommandLine
