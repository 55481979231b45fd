import StepRecorder.Correlation

/-!
The configuration of a recording, its defaults, and the three rules that it has to obey.

Main statement: `Config.defaults_obey` says that the defaults break no rule.
-/

namespace StepRecorder

/-- Where the log is, and where the artifacts go. -/
structure Paths where
  log : Text := "appium.log".toList
  registry : Text := "locators.json".toList
  steps : Text := "steps.txt".toList
  deriving Repr, DecidableEq

/-- How the naming oracle is reached. Times are in milliseconds. -/
structure OracleSettings where
  isEnabled : Bool := true
  model : Text := "gemini-2.5-flash".toList
  endpoint : Text := "https://generativelanguage.googleapis.com/v1beta".toList
  /-- The name of the environment variable with the key. -/
  keyVariable : Text := "GEMINI_API_KEY".toList
  timeout : Nat := 10000
  deriving Repr, DecidableEq

/-- A configuration. -/
structure Config where
  paths : Paths := {}
  /-- How long the end of the log is waited at before it is read again. -/
  pollInterval : Nat := 100
  target : TargetPolicy := .oneShot
  collision : CollisionPolicy := .suffix
  oracle : OracleSettings := {}
  deriving Repr, DecidableEq

namespace Config

/-- A rule that a configuration breaks. -/
inductive Violation where
  | pollIntervalZero
  | timeoutZero
  | logEmpty
  deriving Repr, DecidableEq

namespace Violation

/-- The field that breaks a rule. -/
def field : Violation → Text
  | .pollIntervalZero => "reader.poll_interval_ms".toList
  | .timeoutZero => "oracle.timeout_ms".toList
  | .logEmpty => "paths.log_file".toList

/-- What the rule says. -/
def rule : Violation → Text
  | .pollIntervalZero | .timeoutZero => "must be greater than zero".toList
  | .logEmpty => "must not be empty".toList

/-- The wording of a broken rule. -/
def message (violation : Violation) : Text :=
  "invalid config: ".toList ++ violation.field ++ [' '] ++ violation.rule

/-- Whether a configuration breaks a rule. -/
def isIn (config : Config) : Violation → Bool
  | .pollIntervalZero => config.pollInterval = 0
  | .timeoutZero => config.oracle.isEnabled && config.oracle.timeout = 0
  | .logEmpty => config.paths.log.isEmpty

/-- All rules, in the order in which they are tried. -/
def all : List Violation := [.pollIntervalZero, .timeoutZero, .logEmpty]

end Violation

/-- The first rule that a configuration breaks. -/
def violation? (config : Config) : Option Violation := Violation.all.find? (·.isIn config)

theorem defaults_obey : violation? {} = none := by decide

end Config
end StepRecorder
