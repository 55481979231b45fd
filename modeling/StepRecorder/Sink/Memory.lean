import StepRecorder.Sink

/-!
A sink that keeps everything in memory and fails at calls that are planned, which then store
nothing.
-/

namespace StepRecorder.Memory

/-- The calls that fail, counted from 1 for each of the three functions. -/
structure Plan where
  registry : List Nat := []
  action : List Nat := []
  flush : List Nat := []

/-- What was stored, and how often each function was called. -/
structure Store where
  snapshots : List (List (Text × Text)) := []
  lines : List Text := []
  registryCalls : Nat := 0
  actionCalls : Nat := 0
  flushes : Nat := 0

/-- The failure of a planned call. -/
def diskFull (path : Text) : Failure := .persistence path (.reason "disk full".toList)

/-- Where the registry is said to be. -/
def registryPath : Text := "locators.json".toList

/-- Where the script is said to be. -/
def stepsPath : Text := "steps.txt".toList

/-- Stores a write, unless the call is planned to fail. -/
def perform (plan : Plan) (store : Store) : Correlation.Write → Delivery Store
  | .registry entries =>
    let store := { store with registryCalls := store.registryCalls + 1 }
    if store.registryCalls ∈ plan.registry then ⟨store, .error (diskFull registryPath), []⟩
    else ⟨{ store with snapshots := store.snapshots ++ [entries] }, .ok (), []⟩
  | .action action =>
    let store := { store with actionCalls := store.actionCalls + 1 }
    if store.actionCalls ∈ plan.action then ⟨store, .error (diskFull stepsPath), []⟩
    else ⟨{ store with lines := store.lines ++ action.lines }, .ok (), []⟩

/-- Counts a flush, unless the call is planned to fail. -/
def flush (plan : Plan) (store : Store) : Delivery Store :=
  let store := { store with flushes := store.flushes + 1 }
  if store.flushes ∈ plan.flush then ⟨store, .error (diskFull stepsPath), []⟩
  else ⟨store, .ok (), []⟩

/-- The sink that follows a plan. -/
def sink (plan : Plan) : Sink Store := ⟨perform plan, flush plan⟩

/-- The sink that follows a plan but has nothing to flush. -/
def unflushed (plan : Plan) : Sink Store := ⟨perform plan, fun store => ⟨store, .ok (), []⟩⟩

end StepRecorder.Memory
