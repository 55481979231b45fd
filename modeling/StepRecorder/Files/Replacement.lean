import StepRecorder.Failure
import StepRecorder.Files.Operation

/-!
The replacement of a file: the new content goes to a file beside it, is made permanent there, and
that file then takes the place of the old one. So the old content stands until the new one is
complete.

    create temp ─▶ write ─▶ sync ─▶ rename temp to path

Each arrow is a point at which it can break off; a prefix of the operations leads there.

That the new content is complete is not certain. A file takes over what is written to it, and stores
it while the writing goes on. The next piece of a write waits for the one before, and is told if
that could not be stored. Nothing waits for the last piece: a flush would, but a replacement has
none, and the sync makes permanent what there is and keeps the failure to itself. So where the last
piece is not stored, the rename still follows, and what there is of the new content takes the place
of the old one.
-/

namespace StepRecorder.Replacement

/-- An operation of a replacement. What is written goes to the file that was created last; the path
is the one that failures name. -/
inductive Operation where
  | create (path : Text)
  | write (path : Text) (bytes : Bytes)
  | sync (path : Text)
  | rename (path target : Text)
  deriving Repr, DecidableEq

/-- What goes wrong in a replacement, besides what the disk itself is the reason for. -/
structure Mishaps where
  create : Option SystemError := none
  /-- Only so many bytes of a write can be stored. -/
  write : Option (Nat × SystemError) := none
  sync : Option SystemError := none
  rename : Option SystemError := none
  deriving Repr, DecidableEq

/-- A disk with the file that was created last. -/
structure Progress where
  disk : Disk
  created : Handle := .device .null
  /-- The failure of a write that nobody has been told of. -/
  untold : Option SystemError := none
  deriving Repr

/-- How many bytes a file takes over at once. -/
def maxPiece : Nat := 2 * 1024 * 1024

/-- Whether another piece is waiting behind the one where a write breaks off. -/
def isTold (count : Nat) (bytes : Bytes) : Bool :=
  decide (count / maxPiece < (bytes.length - 1) / maxPiece)

/-- After how many bytes a write breaks off, if it does. -/
def breakOff? (mishaps : Mishaps) (created : Handle) (bytes : Bytes) : Option (Nat × SystemError) :=
  let first := match created.written with
    | .ok () => mishaps.write
    | .error error => some (0, error)
  first.filter fun found => decide (found.1 < bytes.length)

/-- What an operation at a path comes to, unless a mishap comes before. -/
def attempt {α : Type} (path : Text) (mishap : Option SystemError)
    (result : Except SystemError α) : Except Failure α :=
  match mishap, result with
  | none, .ok value => .ok value
  | none, .error error | some error, _ => .error (.persistence path (.system error))

/-- An operation. A write that breaks off has stored what comes before, and fails only if another
piece is waiting. -/
def perform (mishaps : Mishaps) (progress : Progress) :
    Operation → Progress × Except Failure Unit
  | .create path =>
    match attempt path mishaps.create (progress.disk.openWrite? true path) with
    | .ok (disk, created) => ({ disk, created }, .ok ())
    | .error failure => (progress, .error failure)
  | .write path bytes =>
    match breakOff? mishaps progress.created bytes with
    | none => ({ progress with disk := progress.created.write progress.disk 0 bytes }, .ok ())
    | some (count, error) =>
      let disk := progress.created.write progress.disk 0 (bytes.take count)
      if isTold count bytes then
        ({ progress with disk }, .error (.persistence path (.system error)))
      else ({ progress with disk, untold := some error }, .ok ())
  | .sync path => (progress, attempt path mishaps.sync progress.created.synced)
  | .rename path target =>
    match attempt target mishaps.rename (progress.disk.rename? path target) with
    | .ok disk => ({ progress with disk }, .ok ())
    | .error failure => (progress, .error failure)

/-- Some operations, up to the first that fails. -/
def run (mishaps : Mishaps) (progress : Progress) : List Operation → Progress × Except Failure Unit
  | [] => (progress, .ok ())
  | operation :: operations =>
    match perform mishaps progress operation with
    | (progress, .ok ()) => run mishaps progress operations
    | (progress, .error failure) => (progress, .error failure)

/-- The last name of the file beside a path. -/
def temporaryName (path : Text) : Text :=
  (Path.fileName? path).getD "registry".toList ++ ".tmp".toList

/-- The file beside a path that a replacement goes through. -/
def temporaryPath (path : Text) : Text := Path.sibling path (temporaryName path)

/-- The operations that give a path a new content. -/
def operations (path : Text) (bytes : Bytes) : List Operation :=
  let temporary := temporaryPath path
  [.create temporary, .write temporary bytes, .sync temporary, .rename temporary path]

end StepRecorder.Replacement
