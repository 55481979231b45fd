import StepRecorder.Registry.Json
import StepRecorder.Script

/-!
Checking a script against a registry: every name that a step refers to has to be a key of the
registry. The registry is read before the script, so of two errors the registry's is told.
-/

namespace StepRecorder.Script

/-- A name that no entry of the registry has, and the line that refers to it. -/
structure Missing where
  line : Nat
  name : Text
  deriving Repr, DecidableEq

/-- What a check finds. -/
structure Report where
  steps : Nat
  missing : List Missing
  deriving Repr, DecidableEq

/-- Whether every name was found. -/
def Report.isOk (report : Report) : Bool := report.missing.isEmpty

/-- Why a check cannot be made. -/
inductive CheckError where
  | registry
  | script (error : Error)
  deriving Repr, DecidableEq

/-- The names of a step that are no keys. -/
def missingOf (keys : List Text) (placed : Placed) : Option Missing :=
  placed.step.elementName?.bind fun name =>
    if keys.contains name then none else some ⟨placed.line, name⟩

/-- The check of a script against the text of a registry. -/
def check (registry script : Text) : Except CheckError Report :=
  match Registry.ofText? registry with
  | none => .error .registry
  | some entries =>
    match parse script with
    | .error error => .error (.script error)
    | .ok steps => .ok ⟨steps.length, steps.filterMap (missingOf (Ordered.keys entries))⟩

end StepRecorder.Script
