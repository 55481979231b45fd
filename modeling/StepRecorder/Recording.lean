import StepRecorder.Config
import StepRecorder.Event.Recognition
import StepRecorder.Follower
import StepRecorder.Sink.Artifacts

/-!
A recording on a disk: the log is followed, the events in its lines are correlated, and the
artifacts are written. It goes on until it is stopped or something fails.

    prepare ─▶ settle ─▶ (the log grows) ─▶ settle ─▶ ... ─▶ finish
                 │                            │
                 └─ failure ◀─────────────────┘
-/

namespace StepRecorder

/-- What a recording came to. -/
structure Summary where
  lines : Nat
  events : Nat
  bindings : Nat
  actions : Nat
  deriving Repr, DecidableEq

/-- A recording that goes on, unless it has failed. -/
structure Recording where
  follower : Follower
  recorder : Recorder Artifacts.Store
  /-- By what the artifacts are written. -/
  sink : Sink Artifacts.Store := Artifacts.sink
  events : Nat := 0
  bindings : Nat := 0
  actions : Nat := 0
  notices : List Notice := []
  failure : Option Failure := none

namespace Recording

/-- The disk of a recording. -/
def disk (recording : Recording) : Disk := recording.recorder.store.disk

/-- The recording after something else has changed its disk. -/
def onDisk (change : Disk → Disk) (recording : Recording) : Recording :=
  let store := recording.recorder.store
  { recording with
    recorder := { recording.recorder with store := { store with disk := change store.disk } } }

/-- Makes the files of a recording: the log is there in the end, and the artifacts are new. -/
def prepare (disk : Disk) (paths : Paths) : Disk × Except Failure (Follower × Artifacts) :=
  match Follower.ensure disk paths.log with
  | (disk, .error failure) => (disk, .error failure)
  | (disk, .ok ()) =>
    match Artifacts.create disk paths.registry paths.steps with
    | (disk, .error failure) => (disk, .error failure)
    | (disk, .ok artifacts) =>
      match Follower.open? disk paths.log with
      | .error failure => (disk, .error failure)
      | .ok follower => (disk, .ok (follower, artifacts))

/-- The recording that begins with files that are made. -/
def begin (collision : CollisionPolicy) (disk : Disk) (follower : Follower)
    (artifacts : Artifacts) : Recording :=
  { follower, recorder := ⟨.initial collision, { disk, artifacts }⟩ }

/-- The recording with one more outcome. -/
def count (recording : Recording) : Correlation.Outcome → Recording
  | .bound _ => { recording with bindings := recording.bindings + 1 }
  | .recorded _ => { recording with actions := recording.actions + 1 }
  | _ => recording

/-- The recording after an event. -/
def onEvent (conduct : Conduct) (recording : Recording) (event : Event) : Recording :=
  let done := recording.recorder.process recording.sink conduct event
  let recording :=
    { recording with
      recorder := done.recorder
      events := recording.events + 1
      notices := recording.notices ++ done.notices }
  match done.result with
  | .ok outcome => recording.count outcome
  | .error failure => { recording with failure := some failure }

/-- The recording after a line of the log. -/
def onLine (conduct : Conduct) (recording : Recording) (text : Text) : Recording :=
  match Event.ofLine? text with
  | some event => recording.onEvent conduct event
  | none => recording

/-- The recording after the next line, if one is complete and nothing has failed; whether it was. -/
def advance (conduct : Conduct) (recording : Recording) : Recording × Bool :=
  if recording.failure.isSome then (recording, false)
  else
    match recording.follower.next recording.disk false with
    | (follower, .line _ text) => (({ recording with follower }).onLine conduct text, true)
    | (follower, .failed failure) => ({ recording with follower, failure := some failure }, false)
    | (follower, _) => ({ recording with follower }, false)

/-- The recording after a number of lines, or fewer where no more are complete. -/
def advanceUpTo (conduct : Conduct) : Nat → Recording → Recording
  | 0, recording => recording
  | lines + 1, recording =>
    match recording.advance conduct with
    | (recording, true) => advanceUpTo conduct lines recording
    | (recording, false) => recording

/-- How many bytes of the log are not handed out yet. -/
def remaining (recording : Recording) : Nat :=
  let follower := recording.follower
  match follower.source.content recording.disk with
  | .ok content => follower.fetched.length + (content.length - follower.position)
  | .error _ => 0

/-- How many lines can follow. A line that is recorded can come back as two lines of the log, where
the script is the log, but what is recorded of those is shorter. -/
def lineLimit (recording : Recording) : Nat := (recording.remaining + 1) * (recording.remaining + 1)

/-- The recording after all lines that are complete. -/
def settle (conduct : Conduct) (recording : Recording) : Recording :=
  recording.advanceUpTo conduct recording.lineLimit

/-- What a recording ends with. -/
structure Finished where
  disk : Disk
  result : Except Failure Summary
  notices : List Notice

/-- The end of a recording. The script is flushed, unless something has failed before. -/
def finish (recording : Recording) : Finished :=
  match recording.failure with
  | some failure => ⟨recording.disk, .error failure, recording.notices⟩
  | none =>
    let delivery := recording.sink.flush recording.recorder.store
    let disk := delivery.store.disk
    let notices := recording.notices ++ delivery.notices
    match delivery.result with
    | .error failure => ⟨disk, .error failure, notices⟩
    | .ok () =>
      let summary : Summary :=
        ⟨recording.follower.linesRead, recording.events, recording.bindings, recording.actions⟩
      ⟨disk, .ok summary,
        notices ++ [.stopped summary.lines summary.events summary.bindings summary.actions]⟩

end Recording
end StepRecorder
