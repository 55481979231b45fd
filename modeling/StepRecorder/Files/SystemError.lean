import StepRecorder.Text.Numeral

/-!
Errors of file operations, with the number and the wording of the operating system, and the cause
of a failure: such an error, content that is no text, or a reason in words.
-/

namespace StepRecorder

/-- What a file operation can fail with. -/
inductive SystemError where
  | noEntry
  | exists
  | notDirectory
  | isDirectory
  | invalid
  | noSpace
  | nameTooLong
  | tooManyLinks
  /-- The path holds a null character, so the operating system is not even asked. -/
  | nulByte
  deriving Repr, DecidableEq

namespace SystemError

/-- The number of an error that the operating system knows. -/
def code? : SystemError → Option Nat
  | .noEntry => some 2
  | .exists => some 17
  | .notDirectory => some 20
  | .isDirectory => some 21
  | .invalid => some 22
  | .noSpace => some 28
  | .nameTooLong => some 36
  | .tooManyLinks => some 40
  | .nulByte => none

/-- The description of an error. -/
def description : SystemError → Text
  | .noEntry => "No such file or directory".toList
  | .exists => "File exists".toList
  | .notDirectory => "Not a directory".toList
  | .isDirectory => "Is a directory".toList
  | .invalid => "Invalid argument".toList
  | .noSpace => "No space left on device".toList
  | .nameTooLong => "File name too long".toList
  | .tooManyLinks => "Too many levels of symbolic links".toList
  | .nulByte => "file name contained an unexpected NUL byte".toList

/-- The wording of an error. -/
def message (error : SystemError) : Text :=
  match error.code? with
  | some code => error.description ++ " (os error ".toList ++ Text.decimal code ++ [')']
  | none => error.description

end SystemError

/-- Why something on files failed. -/
inductive Cause where
  | system (error : SystemError)
  /-- What was read is no text. -/
  | notText
  | reason (text : Text)
  deriving Repr, DecidableEq

/-- The wording of a cause. -/
def Cause.message : Cause → Text
  | .system error => error.message
  | .notText => "stream did not contain valid UTF-8".toList
  | .reason text => text

end StepRecorder
