import StepRecorder.Script
import StepRecorder.Json.Reader
import StepRecorder.Json.Tagged

/-!
Steps as JSON: records with their kind under `step`.
-/

namespace StepRecorder.Step

/-- The record of a step of a kind. -/
def record (kind : Text) (fields : List (Text × Json.Value)) : Json.Value :=
  .ofMembers (("step".toList, .ofText kind) :: fields)

/-- A step as a document. -/
def toJson : Step → Json.Value
  | .openBrowser => record "open_browser".toList []
  | .navigate url => record "navigate".toList [("url".toList, .ofText url)]
  | .verify name => record "verify".toList [("name".toList, .ofText name)]
  | .tap name => record "tap".toList [("name".toList, .ofText name)]
  | .enter text name =>
    record "type".toList [("text".toList, .ofText text), ("name".toList, .ofText name)]
  | .wait seconds => record "wait".toList [("secs".toList, .ofNat seconds)]

/-- The number of seconds that a value stands for. -/
def seconds? : Json.Value → Option Nat
  | .number written => Json.Number.word? written
  | _ => none

/-- The step with one text that some fields describe. -/
def withText? (name : Text) (make : Text → Step) (fields : Json.Fields) : Option Step := do
  match ← fields.values? [name] with
  | [value] => value.text?.map make
  | _ => none

/-- The step that a document stands for. -/
def ofJson? (value : Json.Value) : Option Step := do
  let (kind, fields) ← Json.tagged? "step".toList value
  if kind = "open_browser".toList then
    match ← fields.values? [] with
    | _ => some .openBrowser
  else if kind = "navigate".toList then withText? "url".toList .navigate fields
  else if kind = "verify".toList then withText? "name".toList .verify fields
  else if kind = "tap".toList then withText? "name".toList .tap fields
  else if kind = "type".toList then
    match ← fields.values? ["text".toList, "name".toList] with
    | [text, name] => do some (.enter (← text.text?) (← name.text?))
    | _ => none
  else if kind = "wait".toList then
    match ← fields.values? ["secs".toList] with
    | [value] => (seconds? value).map .wait
    | _ => none
  else none

end StepRecorder.Step
