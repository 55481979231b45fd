import StepRecorder.Json.Bytes
import StepRecorder.Json.Field

/-!
What a model replies: candidates, each with a content, each with parts, some with a text. Only the
first candidate counts. Every level is a record with one field that matters, and can be written as
an array of it.
-/

namespace StepRecorder.Response

/-- The field of a record, which can be absent from an object; with `mayLack`, also from an
array. -/
def field? (mayLack : Bool) (name : String) : Json.Value → Option (Option Json.Value)
  | .object members => do Json.optional? name.toList (← Json.named? members)
  | .array [] => if mayLack then some none else none
  | .array [value] => some (some value)
  | _ => none

/-- The items of a field that is a list, if it is there. -/
def items? : Option Json.Value → Option (List Json.Value)
  | none => some []
  | some (.array items) => some items
  | some _ => none

/-- What a field that can be null holds. -/
def present? : Option Json.Value → Option Json.Value
  | some .null => none
  | value => value

/-- The text of a part, if it has one. -/
def partText? (part : Json.Value) : Option (Option Text) := do
  match present? (← field? false "text" part) with
  | none => some none
  | some value => value.text?.map some

/-- The texts of the parts of a content. -/
def contentTexts? (content : Json.Value) : Option (List Text) := do
  let parts ← items? (← field? true "parts" content)
  some ((← parts.mapM partText?).filterMap id)

/-- The texts of a candidate. -/
def candidateTexts? (candidate : Json.Value) : Option (List Text) := do
  match present? (← field? false "content" candidate) with
  | none => some []
  | some content => contentTexts? content

/-- The texts of all candidates of a reply. -/
def candidates? (reply : Json.Value) : Option (List (List Text)) := do
  (← items? (← field? true "candidates" reply)).mapM candidateTexts?

/-- The text of the first of some candidates. -/
def firstText (candidates : List (List Text)) : Text := (candidates.head?.getD []).flatten

/-- The text in the bytes of a reply, which can be empty. -/
def text? (bytes : Bytes) : Option Text :=
  ((Json.Value.ofBytes? bytes).bind candidates?).map firstText

end StepRecorder.Response
