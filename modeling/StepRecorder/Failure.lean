import StepRecorder.Files.SystemError

/-!
Failures that end a recording: the log cannot be read, or an artifact cannot be written. Lines that
show no event and names that no oracle gives are no failures.
-/

namespace StepRecorder

/-- What ends a recording. -/
inductive Failure where
  | sourceUnavailable (path : Text) (cause : Cause)
  | persistence (path : Text) (cause : Cause)
  deriving Repr, DecidableEq

namespace Failure

/-- The cause of a failure. -/
def cause : Failure → Cause
  | .sourceUnavailable _ cause => cause
  | .persistence _ cause => cause

/-- The wording of a failure. -/
def message : Failure → Text
  | .sourceUnavailable path cause =>
    "log source ".toList ++ path ++ " is unavailable: ".toList ++ cause.message
  | .persistence path cause => "failed to write ".toList ++ path ++ ": ".toList ++ cause.message

end Failure
end StepRecorder
