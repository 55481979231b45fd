import StepRecorder.Config
import StepRecorder.Text.Blank
import StepRecorder.Yaml.Node.Parse
import StepRecorder.Yaml.Record

/-!
Configurations in YAML: four sections, in which every key can be left out. A blank text gives the
defaults. What is read has to obey the rules.
-/

namespace StepRecorder.Config

open StepRecorder.Yaml (Document Node)

/-- Why a text gives no configuration. -/
inductive TextError where
  | malformed
  | invalid (violation : Violation)
  deriving Repr, DecidableEq

/-- The paths in a section. -/
def pathsOf? (document : Document) (node : Node) : Option Paths := do
  let log := "log_file".toList
  let registry := "registry_file".toList
  let steps := "steps_file".toList
  let members ← document.members? [log, registry, steps] node
  let path (key default : Text) := Document.member document.text? default key members
  let defaults : Paths := {}
  some ⟨← path log defaults.log, ← path registry defaults.registry, ← path steps defaults.steps⟩

/-- The poll interval in a section. -/
def pollIntervalOf? (default : Nat) (document : Document) (node : Node) : Option Nat := do
  let key := "poll_interval_ms".toList
  Document.member document.word? default key (← document.members? [key] node)

/-- The words for the target policies. -/
def targetChoices : List (Text × TargetPolicy) :=
  [("one_shot".toList, .oneShot), ("sticky".toList, .sticky)]

/-- The words for the collision policies. -/
def collisionChoices : List (Text × CollisionPolicy) :=
  [("overwrite".toList, .overwrite), ("suffix".toList, .suffix)]

/-- The policies in a section. -/
def policiesOf? (defaults : Config) (document : Document) (node : Node) :
    Option (TargetPolicy × CollisionPolicy) := do
  let target := "type_target_policy".toList
  let collision := "collision_policy".toList
  let members ← document.members? [target, collision] node
  some (← Document.member (document.choice? targetChoices) defaults.target target members,
    ← Document.member (document.choice? collisionChoices) defaults.collision collision members)

/-- The settings of the oracle in a section. -/
def oracleOf? (document : Document) (node : Node) : Option OracleSettings := do
  let enabled := "enabled".toList
  let model := "model".toList
  let endpoint := "endpoint".toList
  let key := "api_key_env".toList
  let timeout := "timeout_ms".toList
  let members ← document.members? [enabled, model, endpoint, key, timeout] node
  let text (key default : Text) := Document.member document.text? default key members
  let defaults : OracleSettings := {}
  some
    { isEnabled := ← Document.member document.bool? defaults.isEnabled enabled members
      model := ← text model defaults.model
      endpoint := ← text endpoint defaults.endpoint
      keyVariable := ← text key defaults.keyVariable
      timeout := ← Document.member document.word? defaults.timeout timeout members }

/-- The configuration in a document. -/
def ofDocument? (document : Document) : Option Config := do
  let paths := "paths".toList
  let reader := "reader".toList
  let correlation := "correlation".toList
  let oracle := "oracle".toList
  let members ← document.members? [paths, reader, correlation, oracle] document.root
  let defaults : Config := {}
  let policies ← Document.member (policiesOf? defaults document)
    (defaults.target, defaults.collision) correlation members
  some
    { paths := ← Document.member (pathsOf? document) defaults.paths paths members
      pollInterval := ← Document.member (pollIntervalOf? defaults.pollInterval document)
        defaults.pollInterval reader members
      target := policies.1
      collision := policies.2
      oracle := ← Document.member (oracleOf? document) defaults.oracle oracle members }

/-- The configuration in a text, before the rules are tried. -/
def unchecked? (text : Text) : Option Config :=
  if (Text.trim text).isEmpty then some {} else (Document.ofText? text).bind ofDocument?

/-- The configuration in a text. -/
def ofText (text : Text) : Except TextError Config :=
  match unchecked? text with
  | none => .error .malformed
  | some config =>
    match config.violation? with
    | some violation => .error (.invalid violation)
    | none => .ok config

end StepRecorder.Config
