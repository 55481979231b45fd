import StepRecorder.Text.Basic

/-!
Events: what a single line of the driver's log can tell. An event is of one of five kinds and
carries one text, whose meaning the kind decides.
-/

namespace StepRecorder

/-- What an event tells. -/
inductive EventKind where
  /-- A locator was sent to the driver. -/
  | locator
  /-- The driver answered with a reference to an element. -/
  | element
  /-- An element was clicked. -/
  | click
  /-- An element is about to receive typed text. -/
  | target
  /-- A text was typed. -/
  | typed
  deriving Repr, DecidableEq

/-- The short word for a kind. -/
def EventKind.word : EventKind → Text
  | .locator => "locator".toList
  | .element => "element".toList
  | .click => "click".toList
  | .target => "value".toList
  | .typed => "text".toList

/-- The kinds, in the order in which they are looked for. -/
def EventKind.all : List EventKind := [.locator, .element, .click, .target, .typed]

/-- One recognized occurrence in the log. -/
structure Event where
  kind : EventKind
  payload : Text
  deriving Repr, DecidableEq

/-- The event for a reader of messages: its kind, and its text in parentheses. -/
def Event.display (event : Event) : Text := event.kind.word ++ '(' :: event.payload ++ [')']

end StepRecorder
