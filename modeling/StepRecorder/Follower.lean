import StepRecorder.Failure
import StepRecorder.Files.Operation
import StepRecorder.Log

/-!
Following a log. A follower hands out the lines of a file that grows, each once its line feed is
there. The file stays open, so that nothing which happens to its path later changes what is read;
but at the end of what there is, the path must still lead to something.

    handed out │ held │ fetched │ not yet fetched
                ▲      ▲         ▲
                │      │         └ position
                │      └ taken from the file in chunks, not looked at so far
                └ the beginning of a line whose end is not there yet
-/

namespace StepRecorder

/-- A follower of a log. -/
structure Follower where
  path : Text
  source : Handle
  position : Nat := 0
  fetched : Bytes := []
  held : Bytes := []
  linesRead : Nat := 0
  deriving Repr

namespace Follower

/-- What a follower comes to. -/
inductive Poll where
  | line (number : Nat) (text : Text)
  /-- No line is complete. -/
  | waiting
  /-- The follower was told to stop. -/
  | ended
  | failed (failure : Failure)
  deriving Repr, DecidableEq

/-- How much is fetched at once. -/
def chunk : Nat := 8192

/-- How much is fetched if `n` bytes are needed. -/
def fetchedFor (n : Nat) : Nat := (n + (chunk - 1)) / chunk * chunk

/-- Opens a log. -/
def open? (disk : Disk) (path : Text) : Except Failure Follower :=
  match disk.openRead? path with
  | .ok source => .ok { path, source }
  | .error error => .error (.sourceUnavailable path (.system error))

/-- The failure of a log. -/
def failure (follower : Follower) (error : SystemError) : Failure :=
  .sourceUnavailable follower.path (.system error)

/-- The follower after a line of the stream that consists of what is fetched and of `unread`. -/
def takeLine (follower : Follower) (unread stream line : Bytes) : Follower × Poll :=
  let needed := line.length + 1
  let count := min unread.length (fetchedFor (needed - follower.fetched.length))
  let number := follower.linesRead + 1
  ({ follower with
      position := follower.position + count
      fetched := (stream.take (follower.fetched.length + count)).drop needed
      held := []
      linesRead := number },
    .line number (Log.lineText (follower.held ++ line)))

/-- The follower at the end of what there is. -/
def takeRest (disk : Disk) (follower : Follower) (unread stream : Bytes) : Follower × Poll :=
  let follower : Follower :=
    { follower with
      position := follower.position + unread.length
      fetched := []
      held := follower.held ++ stream }
  match disk.entry? follower.path with
  | .ok _ => (follower, .waiting)
  | .error error => (follower, .failed (follower.failure error))

/-- The next line, if one is complete. -/
def next (disk : Disk) (isCancelled : Bool) (follower : Follower) : Follower × Poll :=
  if isCancelled then (follower, .ended)
  else
    match follower.source.content disk with
    | .error error => (follower, .failed (follower.failure error))
    | .ok content =>
      let unread := content.drop follower.position
      let stream := follower.fetched ++ unread
      let line := stream.takeWhile (· ≠ Log.lineFeed)
      if line.length < stream.length then follower.takeLine unread stream line
      else follower.takeRest disk unread stream

/-- Makes sure that there is a log at a path, with the directories on the way to it. What a log
holds is kept. -/
def ensure (disk : Disk) (path : Text) : Disk × Except Failure Unit :=
  let failed (error : SystemError) : Except Failure Unit :=
    .error (.sourceUnavailable path (.system error))
  match disk.makeParents path with
  | (disk, .error error) => (disk, failed error)
  | (disk, .ok ()) =>
    match disk.openWrite? false path with
    | .ok (disk, _) => (disk, .ok ())
    | .error error => (disk, failed error)

end Follower
end StepRecorder
