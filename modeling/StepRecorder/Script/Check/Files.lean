import StepRecorder.Files.Reading
import StepRecorder.Script.Check

/-!
Checking a script in one file against a registry in another. Both are read before either is looked
into, the registry first.
-/

namespace StepRecorder.Script

/-- Why the check of two files cannot be made. -/
inductive FilesError where
  | unreadable (path : Text) (cause : Cause)
  | check (error : CheckError)
  deriving Repr, DecidableEq

/-- What there is to say about a text that gives no registry. -/
def malformedText : Text := "the document is no object of texts".toList

/-- The wording of an error. -/
def FilesError.message : FilesError → Text
  | .unreadable path cause => "failed to read ".toList ++ path ++ ": ".toList ++ cause.message
  | .check .registry => "invalid registry: ".toList ++ malformedText
  | .check (.script error) => error.message

/-- What caused an error. -/
def FilesError.causes : FilesError → List Text
  | .unreadable _ cause => [cause.message]
  | .check .registry => [malformedText]
  | .check (.script _) => []

/-- The text of a file that was read. -/
def textOf (path : Text) (reading : Reading) : Except FilesError Text :=
  match reading.text? with
  | .ok text => .ok text
  | .error cause => .error (.unreadable path cause)

/-- The check of two files that were read. -/
def checkReadings (registryPath : Text) (registry : Reading) (scriptPath : Text)
    (script : Reading) : Except FilesError Report :=
  match textOf registryPath registry with
  | .error error => .error error
  | .ok registry =>
    match textOf scriptPath script with
    | .error error => .error error
    | .ok script =>
      match check registry script with
      | .ok report => .ok report
      | .error error => .error (.check error)

/-- The check of two files on a disk. -/
def checkFiles (disk : Disk) (registry script : Text) : Except FilesError Report :=
  checkReadings registry (.ofDisk disk registry) script (.ofDisk disk script)

end StepRecorder.Script
