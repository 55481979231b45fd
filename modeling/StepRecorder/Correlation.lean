import StepRecorder.Action
import StepRecorder.Event
import StepRecorder.Naming.Choose
import StepRecorder.Registry

/-!
Correlation of events. Two slots carry what has to be remembered between events: the locator that
waits for an element, and the element that is armed for typed text.

    locator x     pending := x
    element id    pending x: ask the oracle, bind id; either way pending := none
    click id      bound id: tap
    target id     armed := id
    typed t       armed, bound id: enter t; under `oneShot` armed := none

A step is pure. Whatever is to be written is part of its result, so that a write that fails cannot
change what the next step sees.
-/

namespace StepRecorder

/-- What becomes of the armed element once a text was typed. -/
inductive TargetPolicy where
  /-- The text that uses it disarms it. -/
  | oneShot
  /-- It stays armed until the next one. -/
  | sticky
  deriving Repr, DecidableEq

namespace Correlation

/-- Why an event came to nothing. -/
inductive DropReason where
  | noPendingLocator
  | alreadyBound
  | unknownElement
  | noTarget
  deriving Repr, DecidableEq

/-- What an event came to. -/
inductive Outcome where
  | locatorPending
  | bound (binding : Binding)
  | armed
  | recorded (action : Action)
  | dropped (reason : DropReason)
  deriving Repr, DecidableEq

/-- What is to be written: all entries of the registry, or one more action. -/
inductive Write where
  | registry (entries : List (Text × Text))
  | action (action : Action)
  deriving Repr, DecidableEq

/-- What is remembered: the registry, the two slots, and the questions to the oracle so far. -/
structure State where
  registry : Registry
  pending : Option Text := none
  target : Option Text := none
  asked : List Text := []
  deriving Repr, DecidableEq

/-- The state at the start. -/
def State.initial (policy : CollisionPolicy) : State := { registry := { policy } }

/-- A step: the next state, the outcome and the write it depends on, and the notices before and
after that write. -/
structure Effect where
  state : State
  outcome : Outcome
  write : Option Write := none
  before : List Notice := []
  after : List Notice := []

/-- The step of an element that is bound to a pending locator. -/
def bind (oracle : Oracle) (state : State) (id locator : Text) : Effect :=
  let (choice, told) := Naming.choose (oracle state.asked locator) locator state.registry.size
  let state := { state with asked := state.asked ++ [locator] }
  match state.registry.bind id choice.name locator with
  | (registry, .bound binding, collisions) =>
    { state := { state with registry }
      outcome := .bound binding
      write := some (.registry registry.locators)
      before := told ++ collisions
      after := [.locatorSaved binding.name choice.source id] }
  | (registry, .alreadyBound _, collisions) =>
    { state := { state with registry }, outcome := .dropped .alreadyBound,
      before := told ++ collisions }

/-- The step of an element reference. -/
def element (oracle : Oracle) (state : State) (id : Text) : Effect :=
  match state.pending with
  | none =>
    { state, outcome := .dropped .noPendingLocator, before := [.nothingPending id] }
  | some locator =>
    let state := { state with pending := none }
    if state.registry.contains id then
      { state, outcome := .dropped .alreadyBound, before := [.alreadyBound id] }
    else bind oracle state id locator

/-- The step of an interaction with the element of an id. -/
def interact (state : State) (id : Text) (make : Text → Action) (before : List Notice) : Effect :=
  match state.registry.nameOf? id with
  | some name =>
    { state, outcome := .recorded (make name), write := some (.action (make name)), before }
  | none => { state, outcome := .dropped .unknownElement, before }

/-- The step of a typed text. -/
def typed (policy : TargetPolicy) (state : State) (text : Text) : Effect :=
  match state.target with
  | none => { state, outcome := .dropped .noTarget }
  | some id =>
    let state := match policy with
      | .oneShot => { state with target := none }
      | .sticky => state
    interact state id (.enter text) []

/-- The step of an event. -/
def step (policy : TargetPolicy) (oracle : Oracle) (state : State) (event : Event) : Effect :=
  match event.kind with
  | .locator =>
    { state := { state with pending := some event.payload }
      outcome := .locatorPending
      before := [.locatorFound event.payload] }
  | .element => element oracle state event.payload
  | .click => interact state event.payload .tap [.clickFound event.payload]
  | .target =>
    { state := { state with target := some event.payload }
      outcome := .armed
      before := [.targetArmed event.payload] }
  | .typed => typed policy state event.payload

end Correlation
end StepRecorder
