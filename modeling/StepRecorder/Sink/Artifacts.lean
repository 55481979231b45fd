import StepRecorder.Files.Replacement
import StepRecorder.Registry.Json
import StepRecorder.Sink

/-!
The artifacts of a recording on a disk: the registry, which is replaced as a whole, and the script,
which stays open and to which each action adds its two lines.
-/

namespace StepRecorder

/-- The two artifacts. The script is written at its own position. -/
structure Artifacts where
  registry : Text
  steps : Text
  script : Handle
  position : Nat := 0
  deriving Repr

namespace Artifacts

/-- A disk with the artifacts on it. -/
structure Store where
  disk : Disk
  artifacts : Artifacts
  deriving Repr

/-- The failure to write to a path. -/
def failure (path : Text) (error : SystemError) : Failure := .persistence path (.system error)

/-- Makes the directories on the way to some paths. -/
def makeWays (disk : Disk) : List Text → Disk × Except Failure Unit
  | [] => (disk, .ok ())
  | path :: paths =>
    match disk.makeParents path with
    | (disk, .ok ()) => makeWays disk paths
    | (disk, .error error) => (disk, .error (failure path error))

/-- Starts a file with a content. -/
def start (disk : Disk) (path : Text) (bytes : Bytes) : Disk × Except Failure Handle :=
  match disk.openWrite? true path with
  | .error error => (disk, .error (failure path error))
  | .ok (disk, handle) =>
    let disk := handle.write disk 0 bytes
    match if bytes.isEmpty then .ok () else handle.written with
    | .ok () => (disk, .ok handle)
    | .error error => (disk, .error (failure path error))

/-- Starts both artifacts: a registry without entries, and an empty script. -/
def create (disk : Disk) (registry steps : Text) : Disk × Except Failure Artifacts :=
  match makeWays disk [registry, steps] with
  | (disk, .error failure) => (disk, .error failure)
  | (disk, .ok ()) =>
    match start disk registry (Text.encode (Registry.render [])) with
    | (disk, .error failure) => (disk, .error failure)
    | (disk, .ok _) =>
      match start disk steps [] with
      | (disk, .error failure) => (disk, .error failure)
      | (disk, .ok script) => (disk, .ok { registry, steps, script })

/-- Replaces the registry, whatever goes wrong with it. -/
def replaceRegistryDespite (mishaps : Replacement.Mishaps) (store : Store)
    (entries : List (Text × Text)) : Delivery Store :=
  let bytes := Text.encode (Registry.render entries)
  let (progress, result) := Replacement.run mishaps { disk := store.disk }
    (Replacement.operations store.artifacts.registry bytes)
  ⟨{ store with disk := progress.disk }, result, []⟩

/-- Replaces the registry, where only the disk can be in the way. -/
def replaceRegistry (store : Store) (entries : List (Text × Text)) : Delivery Store :=
  replaceRegistryDespite {} store entries

/-- What making the script permanent comes to. -/
def synced (artifacts : Artifacts) : Except Failure Unit :=
  match artifacts.script.synced with
  | .ok () => .ok ()
  | .error error => .error (failure artifacts.steps error)

/-- Adds the lines of an action to the script. -/
def append (store : Store) (action : Action) : Delivery Store :=
  let bytes := Text.encode (action.script)
  let artifacts := store.artifacts
  let store : Store :=
    { disk := artifacts.script.write store.disk artifacts.position bytes
      artifacts := { artifacts with position := artifacts.position + bytes.length } }
  match artifacts.script.written with
  | .error error => ⟨store, .error (failure artifacts.steps error), []⟩
  | .ok () =>
    match artifacts.synced with
    | .error failure => ⟨store, .error failure, []⟩
    | .ok () => ⟨store, .ok (), [.actionRecorded action.instruction action.wait]⟩

/-- Carries out a write of a recording. -/
def perform (store : Store) : Correlation.Write → Delivery Store
  | .registry entries => replaceRegistry store entries
  | .action action => append store action

/-- The sink that keeps the artifacts of a recording. -/
def sink : Sink Store := ⟨perform, fun store => ⟨store, store.artifacts.synced, []⟩⟩

end Artifacts
end StepRecorder
