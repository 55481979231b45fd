import StepRecorder.Naming
import StepRecorder.Oracle
import StepRecorder.Text.Numeral
import StepRecorder.Text.Quoted

/-!
Notices: what a recording tells about itself while it goes on. Each has a level and a wording.
-/

namespace StepRecorder

/-- How important a notice is. -/
inductive Level where
  | debug
  | info
  | warn
  deriving Repr, DecidableEq

/-- The word for a level. -/
def Level.word : Level → Text
  | .debug => "DEBUG".toList
  | .info => "INFO".toList
  | .warn => "WARN".toList

/-- Something that a recording tells. -/
inductive Notice where
  | locatorFound (locator : Text)
  | clickFound (id : Text)
  | targetArmed (id : Text)
  | nothingPending (id : Text)
  | alreadyBound (id : Text)
  | oracleOffline
  | replyRejected (reply locator : Text)
  | oracleFailed (locator : Text) (fault : OracleFault)
  | entryOverwritten (name existing expression : Text)
  | entryRenamed (name existing expression stored : Text)
  | locatorSaved (name : Text) (source : Naming.Source) (id : Text)
  | actionRecorded (instruction wait : Text)
  | scanning (path : Text)
  | stopped (lines events bindings actions : Nat)
  | loadingConfig (path : Text)
  | defaultConfig
  | oracleDisabled
  | keyMissing (variableName : Text)
  | oracleReady (model : Text)
  deriving Repr, DecidableEq

namespace Notice

/-- The first eight characters of an id. -/
def short (id : Text) : Text := id.take 8

/-- The level of a notice. -/
def level : Notice → Level
  | .locatorFound _ | .clickFound _ | .targetArmed _ | .nothingPending _ | .alreadyBound _
  | .oracleOffline | .loadingConfig _ | .defaultConfig => .debug
  | .replyRejected _ _ | .oracleFailed _ _ | .entryOverwritten _ _ _ | .entryRenamed _ _ _ _
  | .keyMissing _ => .warn
  | .locatorSaved _ _ _ | .actionRecorded _ _ | .scanning _ | .stopped _ _ _ _
  | .oracleDisabled | .oracleReady _ => .info

/-- The wording of a notice. -/
def message : Notice → Text
  | .locatorFound locator => "Found XPath in logs: ".toList ++ locator
  | .clickFound id => "Found click for id ".toList ++ short id ++ "...".toList
  | .targetArmed id => "Armed type target ".toList ++ short id ++ "...".toList
  | .nothingPending id => "Element ".toList ++ short id ++ " has no pending locator".toList
  | .alreadyBound id => "Element ".toList ++ short id ++ " is already bound".toList
  | .oracleOffline => "Naming oracle offline, using fallback".toList
  | .replyRejected reply locator =>
    "Rejected oracle name ".toList ++ Text.quoted reply ++ " for ".toList ++ locator
  | .oracleFailed locator fault =>
    "Naming oracle failed for ".toList ++ locator ++ ": ".toList ++ fault.message
  | .entryOverwritten name existing expression =>
    "Name '".toList ++ name ++ "' already maps to ".toList ++ existing ++
      "; overwriting with ".toList ++ expression
  | .entryRenamed name existing expression stored =>
    "Name '".toList ++ name ++ "' already maps to ".toList ++ existing ++ "; storing ".toList ++
      expression ++ " as '".toList ++ stored ++ "'".toList
  | .locatorSaved name source id =>
    "Saved locator ".toList ++ name ++ " (".toList ++ source.word ++ ") for element ".toList ++
      short id
  | .actionRecorded instruction wait =>
    "Recorded: ".toList ++ instruction ++ " / ".toList ++ wait
  | .scanning path =>
    "Scanning ".toList ++ path ++ " from the beginning and listening for new commands".toList
  | .stopped lines events bindings actions =>
    "Stopped after ".toList ++ Text.decimal lines ++ " lines: ".toList ++ Text.decimal events ++
      " events, ".toList ++ Text.decimal bindings ++ " bindings, ".toList ++
      Text.decimal actions ++ " actions".toList
  | .loadingConfig path => "Loading config from ".toList ++ path
  | .defaultConfig => "No config file found, using defaults".toList
  | .oracleDisabled => "Naming oracle disabled; names come from locators".toList
  | .keyMissing variableName =>
    variableName ++ " is not set; naming oracle offline, names come from locators".toList
  | .oracleReady model => "Naming oracle: ".toList ++ model

end Notice
end StepRecorder
