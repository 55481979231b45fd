import StepRecorder.Correlation

/-!
What a step of the correlation can do. `Transition` lists it, one constructor for each kind of event
and each state of the two slots and the registry that makes a difference; `transition_step` says
that a step does one of these. Later proofs go by cases on the transition and never open a step.
-/

namespace StepRecorder

namespace Registry

/-- The name under which a locator is stored when `name` is asked for. -/
def storedName (registry : Registry) (name locator : Text) : Text :=
  (registry.resolve name (expressionOf locator)).1

/-- The registry with a new id, and an entry for its name. -/
def enter (registry : Registry) (id name locator : Text) : Registry :=
  { registry with
    names := Ordered.put id name registry.names
    locators := Ordered.put name (expressionOf locator) registry.locators }

theorem bind_new {registry : Registry} {id : Text} (h : registry.nameOf? id = none)
    (name locator : Text) :
    registry.bind id name locator
      = (registry.enter id (registry.storedName name locator) locator,
          .bound ⟨id, registry.storedName name locator, locator⟩,
          (registry.resolve name (expressionOf locator)).2) := by
  simp only [bind, h]
  rfl

theorem nameOf?_enter (registry : Registry) (id name locator other : Text) :
    (registry.enter id name locator).nameOf? other
      = if other = id then some name else registry.nameOf? other := by
  by_cases h : other = id
  · subst h
    simp [enter, nameOf?]
  · simp [enter, nameOf?, h, Ordered.lookup_put_of_ne h]

end Registry

namespace Correlation

/-- The name that an element gets if it is bound now. -/
def newName (oracle : Oracle) (state : State) (locator : Text) : Text :=
  state.registry.storedName
    (Naming.choose (oracle state.asked locator) locator state.registry.size).1.name locator

/-- The state once an element was bound to the pending locator. -/
def bound (oracle : Oracle) (state : State) (id locator : Text) : State :=
  { state with
    registry := state.registry.enter id (newName oracle state locator) locator
    pending := none
    asked := state.asked ++ [locator] }

/-- The state once a text was typed. -/
def afterText (policy : TargetPolicy) (state : State) : State :=
  match policy with
  | .oneShot => { state with target := none }
  | .sticky => state

@[simp] theorem registry_afterText (policy : TargetPolicy) (state : State) :
    (afterText policy state).registry = state.registry := by
  cases policy <;> rfl

/-- What a step can do: the next state, the outcome and the write. -/
inductive Transition (policy : TargetPolicy) (oracle : Oracle) (state : State) :
    Event → State → Outcome → Option Write → Prop where
  | locator (locator : Text) :
    Transition policy oracle state ⟨.locator, locator⟩ { state with pending := some locator }
      .locatorPending none
  | nothingPending (id : Text) (pending : state.pending = none) :
    Transition policy oracle state ⟨.element, id⟩ state (.dropped .noPendingLocator) none
  | rebound (id locator name : Text) (pending : state.pending = some locator)
      (known : state.registry.nameOf? id = some name) :
    Transition policy oracle state ⟨.element, id⟩ { state with pending := none }
      (.dropped .alreadyBound) none
  | bound (id locator : Text) (pending : state.pending = some locator)
      (new : state.registry.nameOf? id = none) :
    Transition policy oracle state ⟨.element, id⟩ (bound oracle state id locator)
      (.bound ⟨id, newName oracle state locator, locator⟩)
      (some (.registry (bound oracle state id locator).registry.locators))
  | tapped (id name : Text) (known : state.registry.nameOf? id = some name) :
    Transition policy oracle state ⟨.click, id⟩ state (.recorded (.tap name))
      (some (.action (.tap name)))
  | tapUnknown (id : Text) (unknown : state.registry.nameOf? id = none) :
    Transition policy oracle state ⟨.click, id⟩ state (.dropped .unknownElement) none
  | armed (id : Text) :
    Transition policy oracle state ⟨.target, id⟩ { state with target := some id } .armed none
  | noTarget (text : Text) (target : state.target = none) :
    Transition policy oracle state ⟨.typed, text⟩ state (.dropped .noTarget) none
  | entered (text id name : Text) (target : state.target = some id)
      (known : state.registry.nameOf? id = some name) :
    Transition policy oracle state ⟨.typed, text⟩ (afterText policy state)
      (.recorded (.enter text name)) (some (.action (.enter text name)))
  | enterUnknown (text id : Text) (target : state.target = some id)
      (unknown : state.registry.nameOf? id = none) :
    Transition policy oracle state ⟨.typed, text⟩ (afterText policy state)
      (.dropped .unknownElement) none

variable (policy : TargetPolicy) (oracle : Oracle) (state : State)

theorem bind_new {id : Text} (h : state.registry.nameOf? id = none) (locator : Text) :
    let effect := bind oracle { state with pending := none } id locator
    effect.state = bound oracle state id locator
      ∧ effect.outcome = .bound ⟨id, newName oracle state locator, locator⟩
      ∧ effect.write = some (.registry (bound oracle state id locator).registry.locators) := by
  rcases hchoice : Naming.choose (oracle state.asked locator) locator state.registry.size
    with ⟨choice, told⟩
  simp [bind, hchoice, Registry.bind_new h, bound, newName]

theorem transition_element (id : Text) :
    let effect := element oracle state id
    Transition policy oracle state ⟨.element, id⟩ effect.state effect.outcome effect.write := by
  intro effect
  cases hpending : state.pending with
  | none =>
    simp only [effect, element, hpending]
    exact .nothingPending id hpending
  | some locator =>
    cases hname : state.registry.nameOf? id with
    | some name =>
      simp only [effect, element, hpending, Registry.contains, hname, Option.isSome_some, if_true]
      exact .rebound id locator name hpending hname
    | none =>
      obtain ⟨hstate, houtcome, hwrite⟩ := bind_new oracle state hname locator
      simp only [effect, element, hpending, Registry.contains, hname, Option.isSome_none,
        Bool.false_eq_true, if_false]
      rw [hstate, houtcome, hwrite]
      exact .bound id locator hpending hname

theorem transition_typed (text : Text) :
    let effect := typed policy state text
    Transition policy oracle state ⟨.typed, text⟩ effect.state effect.outcome effect.write := by
  intro effect
  cases htarget : state.target with
  | none =>
    simp only [effect, typed, htarget]
    exact .noTarget text htarget
  | some id =>
    have heffect : effect = interact (afterText policy state) id (.enter text) [] := by
      simp only [effect, typed, htarget]
      rfl
    rw [heffect]
    cases hname : state.registry.nameOf? id with
    | some name =>
      simp only [interact, registry_afterText, hname]
      exact .entered text id name htarget hname
    | none =>
      simp only [interact, registry_afterText, hname]
      exact .enterUnknown text id htarget hname

/-- A step does what one of the transitions says. -/
theorem transition_step (event : Event) :
    let effect := step policy oracle state event
    Transition policy oracle state event effect.state effect.outcome effect.write := by
  obtain ⟨kind, payload⟩ := event
  cases kind with
  | locator => exact .locator payload
  | element => exact transition_element policy oracle state payload
  | click =>
    cases hname : state.registry.nameOf? payload with
    | some name =>
      simp only [step, interact, hname]
      exact .tapped payload name hname
    | none =>
      simp only [step, interact, hname]
      exact .tapUnknown payload hname
  | target => exact .armed payload
  | typed => exact transition_typed policy oracle state payload

/-- The action that an outcome records, if any. -/
def Outcome.actions : Outcome → List Action
  | .recorded action => [action]
  | _ => []

/-- The number of bindings in an outcome. -/
def Outcome.bindings : Outcome → Nat
  | .bound _ => 1
  | _ => 0

/-- The entries of a registry after a write, if there is one. -/
def entriesAfter (entries : List (Text × Text)) : Option Write → List (Text × Text)
  | some (.registry more) => more
  | _ => entries

/-- The action that is written, if any. -/
def actionsIn : Option Write → List Action
  | some (.action action) => [action]
  | _ => []

variable {policy oracle state} {event : Event} {next : State} {outcome : Outcome}
  {write : Option Write}

/-- The entries change exactly by a write of all of them. -/
theorem Transition.locators (h : Transition policy oracle state event next outcome write) :
    next.registry.locators = entriesAfter state.registry.locators write := by
  cases h <;> simp [entriesAfter]

/-- An action is recorded exactly by a write of it. -/
theorem Transition.actions (h : Transition policy oracle state event next outcome write) :
    outcome.actions = actionsIn write := by
  cases h <;> rfl

end Correlation
end StepRecorder
