import StepRecorder.Config.Yaml
import StepRecorder.Files.Reading
import StepRecorder.Notice

/-!
Loading a configuration: from the file that is asked for, or else from the first of the usual ones
that is there. Where none is there, the defaults stand.
-/

namespace StepRecorder.Config

/-- Why a configuration cannot be loaded. -/
inductive LoadError where
  | unreadable (path : Text) (cause : Cause)
  | malformed
  | invalid (violation : Violation)
  deriving Repr, DecidableEq

/-- What there is to say about a text that gives no configuration. -/
def malformedText : Text := "the document cannot be understood".toList

/-- The wording of an error. -/
def LoadError.message : LoadError → Text
  | .unreadable path cause => "cannot read ".toList ++ path ++ ": ".toList ++ cause.message
  | .malformed => "invalid config: ".toList ++ malformedText
  | .invalid violation => violation.message

/-- What caused an error. -/
def LoadError.causes : LoadError → List Text
  | .unreadable _ cause => [cause.message]
  | .malformed => [malformedText]
  | .invalid _ => []

/-- What loading comes to, and what there is to tell. -/
structure Loaded where
  result : Except LoadError Config
  notices : List Notice

/-- The usual files: one where the program runs, and one below the home directory. -/
def usualPaths (home : Option Text) : List Text :=
  Path.join ".".toList "scribe.yaml".toList ::
    home.toList.map fun home =>
      Path.join (Path.join home ".scribe".toList) "config.yaml".toList

/-- The file to load: the one that is asked for, or the first usual one that is there. -/
def source? (isThere : Text → Bool) (home explicit : Option Text) : Option Text :=
  explicit.orElse fun () => (usualPaths home).find? isThere

/-- The configuration in a file that was read. -/
def ofReading (path : Text) (reading : Reading) : Loaded :=
  match reading.text? with
  | .error cause => ⟨.error (.unreadable path cause), []⟩
  | .ok text =>
    let result := match ofText text with
      | .ok config => .ok config
      | .error .malformed => .error .malformed
      | .error (.invalid violation) => .error (.invalid violation)
    ⟨result, [.loadingConfig path]⟩

/-- What stands where there is no file. -/
def withoutFile : Loaded := ⟨.ok {}, [.defaultConfig]⟩

/-- Loads a configuration from a disk. -/
def load (disk : Disk) (home explicit : Option Text) : Loaded :=
  match source? disk.exists? home explicit with
  | some path => ofReading path (.ofDisk disk path)
  | none => withoutFile

end StepRecorder.Config
