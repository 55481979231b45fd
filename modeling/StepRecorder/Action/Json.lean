import StepRecorder.Action
import StepRecorder.Json.Reader
import StepRecorder.Json.Tagged

/-!
Actions as JSON: records with their kind under `action`.
-/

namespace StepRecorder.Action

/-- An action as a document. -/
def toJson : Action → Json.Value
  | .tap name =>
    .ofMembers [("action".toList, .ofText "tap".toList), ("name".toList, .ofText name)]
  | .enter text name =>
    .ofMembers [("action".toList, .ofText "type".toList), ("text".toList, .ofText text),
      ("name".toList, .ofText name)]

/-- The action that a document stands for. -/
def ofJson? (value : Json.Value) : Option Action := do
  let (kind, fields) ← Json.tagged? "action".toList value
  if kind = "tap".toList then
    match ← fields.values? ["name".toList] with
    | [name] => name.text?.map .tap
    | _ => none
  else if kind = "type".toList then
    match ← fields.values? ["text".toList, "name".toList] with
    | [text, name] => do some (.enter (← text.text?) (← name.text?))
    | _ => none
  else none

end StepRecorder.Action
