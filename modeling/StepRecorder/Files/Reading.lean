import StepRecorder.Files.Operation

/-!
Reading whole files as texts. What is read can be given from outside, so that it does not matter
what kind of disk it comes from.
-/

namespace StepRecorder

/-- What reading a file came to. -/
abbrev Reading := Except Cause Bytes

namespace Reading

/-- What was read, as text. -/
def text? (reading : Reading) : Except Cause Text :=
  match reading with
  | .error cause => .error cause
  | .ok bytes =>
    match Text.decode? bytes with
    | some text => .ok text
    | none => .error .notText

/-- What reading the file of a path comes to. -/
def ofDisk (disk : Disk) (path : Text) : Reading :=
  match disk.read? path with
  | .ok bytes => .ok bytes
  | .error error => .error (.system error)

end Reading
end StepRecorder
