import StepRecorder.Event
import StepRecorder.Json.Field
import StepRecorder.Json.Reader

/-!
Events as JSON: an object with the label of the kind under `kind` and the text under `payload`, or
an array of the two. In an object, the label may also be written as an object with the label as its
only name and `null` under it.
-/

namespace StepRecorder

/-- The label of a kind in JSON. -/
def EventKind.label : EventKind → Text
  | .locator => "locator_discovered".toList
  | .element => "element_bound".toList
  | .click => "interaction_click".toList
  | .target => "interaction_value_target".toList
  | .typed => "interaction_text".toList

/-- The kind that a label names. -/
def EventKind.ofLabel? (label : Text) : Option EventKind :=
  EventKind.all.find? fun kind => kind.label = label

namespace Event

/-- An event as a document. -/
def toJson (event : Event) : Json.Value :=
  .ofMembers [("kind".toList, .ofText event.kind.label), ("payload".toList, .ofText event.payload)]

/-- The kind that a text names. -/
def labelled? (value : Json.Value) : Option EventKind := value.text?.bind EventKind.ofLabel?

/-- The kind that a value names, be it a text or an object. -/
def kindOf? : Json.Value → Option EventKind
  | .object [(label, .null)] => (Json.Literal.decode? label).bind EventKind.ofLabel?
  | value => labelled? value

/-- The event that a document stands for. -/
def ofJson? : Json.Value → Option Event
  | .object members => do
    let members ← Json.named? members
    let kind ← kindOf? (← Json.required? "kind".toList members)
    let payload ← (← Json.required? "payload".toList members).text?
    some ⟨kind, payload⟩
  | .array [kind, payload] => do
    let kind ← labelled? kind
    let payload ← payload.text?
    some ⟨kind, payload⟩
  | _ => none

end Event
end StepRecorder
