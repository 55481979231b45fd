import StepRecorder.Proofs.Correlation.Refused
import StepRecorder.Proofs.Registry.Permanence

/-!
The oracle is asked once for every binding, and never else. An element that has a locator and no
name yet leads to a question, and then to a request to the registry, which is always granted:

    element id ─▶ locator pending? ─▶ id new? ─▶ question ─▶ request ─▶ binding
                       no                no                     refused: never

What a registry has gained is read off its two maps (`gained?`), what is requested off the state
(`request?`); the questions are counted by the state itself. The three agree, step by step and
therefore along a run, whichever writes fail.

Main statements: `asksOnce_process`, `asks_once_per_binding`.
-/

namespace StepRecorder

namespace Registry

/-- The binding that a registry has beyond an earlier one: the id that was named last, its name, and
the locator that is stored for it. -/
def gained? (earlier later : Registry) : Option Binding :=
  if earlier.bindings < later.bindings then do
    let (id, name) ← later.names.getLast?
    let expression ← later.locatorOf? name
    let locator ← Text.after? (expressionOf []) expression
    some ⟨id, name, locator⟩
  else none

variable {registry : Registry} {id : Text}

theorem names_enter (h : registry.nameOf? id = none) (name locator : Text) :
    (registry.enter id name locator).names = registry.names ++ [(id, name)] :=
  Ordered.put_of_not_mem (Ordered.not_mem_keys_of_lookup h) name

theorem bindings_enter (h : registry.nameOf? id = none) (name locator : Text) :
    (registry.enter id name locator).bindings = registry.bindings + 1 := by
  rw [bindings, names_enter h, List.length_append]
  rfl

@[simp] theorem gained?_self (registry : Registry) : registry.gained? registry = none :=
  if_neg (Nat.lt_irrefl _)

theorem gained?_enter (h : registry.nameOf? id = none) (name locator : Text) :
    registry.gained? (registry.enter id name locator) = some ⟨id, name, locator⟩ := by
  have hgrown : registry.bindings < (registry.enter id name locator).bindings := by
    rw [bindings_enter h]
    exact Nat.lt_succ_self _
  have hentry : (registry.enter id name locator).locatorOf? name = some (expressionOf locator) :=
    Ordered.lookup_put_self _ _ _
  have hexpression : expressionOf locator = expressionOf [] ++ locator :=
    (List.append_assoc "xpath=".toList [] locator).symm
  rw [gained?, if_pos hgrown, names_enter h, List.getLast?_concat]
  simp [hentry, hexpression]

end Registry

namespace Correlation

/-- The request to the registry that an event leads to, if it leads to one. -/
def request? (oracle : Oracle) (state : State) (event : Event) : Option Registry.Request :=
  match event.kind, state.pending with
  | .element, some locator =>
    if state.registry.contains event.payload then none
    else
      some ⟨event.payload,
        (Naming.choose (oracle state.asked locator) locator state.registry.size).1.name, locator⟩
  | _, _ => none

variable {policy : TargetPolicy} {oracle : Oracle} {state : State} {event : Event}
  {request : Registry.Request}

/-- Only a new element behind a locator leads to a request. -/
theorem request?_eq_some (h : request? oracle state event = some request) :
    event = ⟨.element, request.id⟩ ∧ state.pending = some request.locator
      ∧ state.registry.nameOf? request.id = none
      ∧ request.name = (Naming.choose (oracle state.asked request.locator) request.locator
          state.registry.size).1.name := by
  obtain ⟨kind, payload⟩ := event
  unfold request? at h
  split at h
  next locator hkind hpending =>
    split at h
    · cases h
    next hnew =>
      obtain rfl := Option.some.inj h
      obtain rfl : kind = .element := hkind
      exact ⟨rfl, hpending, by simpa [Registry.contains] using hnew, rfl⟩
  · cases h

/-- A step that requests a binding has asked once, leaves the registry as it is after the request,
and comes to what the registry answers. -/
theorem step_of_request? (policy : TargetPolicy) (h : request? oracle state event = some request) :
    let effect := step policy oracle state event
    effect.state.asked = state.asked ++ [request.locator]
      ∧ effect.state.registry = state.registry.take request
      ∧ effect.outcome =
          match state.registry.answer request with
          | .bound binding => .bound binding
          | .alreadyBound _ => .dropped .alreadyBound := by
  obtain ⟨rfl, hpending, hnew, hname⟩ := request?_eq_some h
  have hcontains : state.registry.contains request.id = false := by
    simp [Registry.contains, hnew]
  simp only [step, element, hpending, hcontains, Bool.false_eq_true, if_false, bind, ← hname,
    Registry.take, Registry.answer]
  split
  next heq => exact ⟨rfl, by rw [heq], by rw [heq]⟩
  next heq => exact ⟨rfl, by rw [heq], by rw [heq]⟩

/-- A step that requests no binding asks nothing and leaves the registry as it is. -/
theorem step_of_request?_eq_none (policy : TargetPolicy)
    (h : request? oracle state event = none) :
    let effect := step policy oracle state event
    effect.state.asked = state.asked ∧ effect.state.registry = state.registry := by
  intro effect
  have hstep := transition_step policy oracle state event
  change Transition policy oracle state event effect.state effect.outcome effect.write at hstep
  generalize effect.state = next at hstep ⊢
  generalize effect.outcome = outcome at hstep
  generalize effect.write = write at hstep
  cases hstep with
  | bound id locator pending new => simp [request?, pending, Registry.contains, new] at h
  | entered text id name target known => cases policy <;> exact ⟨rfl, rfl⟩
  | enterUnknown text id target unknown => cases policy <;> exact ⟨rfl, rfl⟩
  | _ => exact ⟨rfl, rfl⟩

end Correlation

namespace Recorder

open Correlation

variable {σ : Type}

/-- The processing of an event, with the recorder before it. -/
abbrev Passage (σ : Type) := Recorder σ × Processed σ

/-- The binding that an event brings into the registry. -/
def gainedIn? (passage : Passage σ) : Option Binding :=
  passage.1.state.registry.gained? passage.2.recorder.state.registry

/-- What the registry answers when an event leads to a request. -/
def answerIn? (oracle : Oracle) (event : Event) (passage : Passage σ) :
    Option Registry.BindResult :=
  (request? oracle passage.1.state event).map passage.1.state.registry.answer

/-- An event that asks for what it binds, and for nothing else. -/
structure AsksOnce (oracle : Oracle) (event : Event) (passage : Passage σ) : Prop where
  asked : passage.2.recorder.state.asked
    = passage.1.state.asked ++ (gainedIn? passage).toList.map (·.locator)
  bindings : passage.2.recorder.state.registry.bindings
    = passage.1.state.registry.bindings + (gainedIn? passage).toList.length
  granted : answerIn? oracle event passage = (gainedIn? passage).map .bound

/-- Every event asks for what it binds, whether or not its write succeeds. -/
theorem asksOnce_process (sink : Sink σ) (conduct : Conduct) (recorder : Recorder σ)
    (event : Event) :
    AsksOnce conduct.oracle event (recorder, recorder.process sink conduct event) := by
  have hstate := state_process conduct sink recorder event
  cases hrequest : request? conduct.oracle recorder.state event with
  | none =>
    obtain ⟨hasked, hregistry⟩ := step_of_request?_eq_none conduct.target hrequest
    rw [← hstate] at hasked hregistry
    have hgained : gainedIn? (recorder, recorder.process sink conduct event) = none := by
      rw [gainedIn?, hregistry, Registry.gained?_self]
    refine ⟨?_, ?_, ?_⟩
    · simpa [hgained] using hasked
    · simp [hgained, hregistry]
    · simp [answerIn?, hrequest, hgained]
  | some request =>
    obtain ⟨hasked, hregistry, -⟩ := step_of_request? conduct.target hrequest
    obtain ⟨-, -, hnew, -⟩ := request?_eq_some hrequest
    rw [← hstate] at hasked hregistry
    generalize hname : recorder.state.registry.storedName request.name request.locator = name
    have htaken : recorder.state.registry.take request
        = recorder.state.registry.enter request.id name request.locator := by
      rw [Registry.take_new hnew, hname]
    have hanswer : recorder.state.registry.answer request
        = .bound ⟨request.id, name, request.locator⟩ := by
      rw [Registry.answer_new hnew, hname]
    -- the id has no name yet, so the request is granted and the registry grows
    rw [htaken] at hregistry
    have hgained : gainedIn? (recorder, recorder.process sink conduct event)
        = some ⟨request.id, name, request.locator⟩ := by
      rw [gainedIn?, hregistry, Registry.gained?_enter hnew]
    refine ⟨?_, ?_, ?_⟩
    · simpa [hgained] using hasked
    · simp [hgained, hregistry, Registry.bindings_enter hnew]
    · simp [answerIn?, hrequest, hanswer, hgained]

/-- Every passage of a trail is the processing of its event. -/
theorem eq_process_of_mem_trail {sink : Sink σ} {conduct : Conduct} {recorder : Recorder σ}
    {events : List Event} {event : Event} {passage : Passage σ}
    (h : (event, passage) ∈ events.zip (trail sink conduct recorder events)) :
    passage = (passage.1, passage.1.process sink conduct event) := by
  induction events generalizing recorder with
  | nil => cases h
  | cons first events ih =>
    rw [trail, List.zip_cons_cons] at h
    rcases List.mem_cons.mp h with heq | hrest
    · cases heq
      rfl
    · exact ih hrest

/-- The questions and the bindings of a run are what its events have asked for and bound. -/
theorem asked_processAll (sink : Sink σ) (conduct : Conduct) (recorder : Recorder σ)
    (events : List Event) :
    let gained := (trail sink conduct recorder events).filterMap gainedIn?
    let last := (processAll sink conduct recorder events).1.state
    last.asked = recorder.state.asked ++ gained.map (·.locator)
      ∧ last.registry.bindings = recorder.state.registry.bindings + gained.length := by
  induction events generalizing recorder with
  | nil => exact ⟨(List.append_nil _).symm, rfl⟩
  | cons event events ih =>
    obtain ⟨hasked, hbindings, -⟩ := asksOnce_process sink conduct recorder event
    obtain ⟨hrestAsked, hrestBindings⟩ := ih (recorder.process sink conduct event).recorder
    simp only [processAll, trail, List.filterMap_cons]
    rw [hrestAsked, hrestBindings, hasked, hbindings]
    cases gainedIn? (recorder, recorder.process sink conduct event) with
    | none => simp
    | some binding => exact ⟨by simp, by simp; omega⟩

/-- Every request of a run is granted, and each binding was requested. -/
theorem answers_trail (sink : Sink σ) (conduct : Conduct) (recorder : Recorder σ)
    (events : List Event) :
    (events.zip (trail sink conduct recorder events)).filterMap
        (fun told => answerIn? conduct.oracle told.1 told.2)
      = ((trail sink conduct recorder events).filterMap gainedIn?).map .bound := by
  induction events generalizing recorder with
  | nil => rfl
  | cons event events ih =>
    have hgranted := (asksOnce_process sink conduct recorder event).granted
    simp only [trail, List.zip_cons_cons, List.filterMap_cons, hgranted]
    rw [ih]
    cases gainedIn? (recorder, recorder.process sink conduct event) <;> rfl

/-- A fact of the questions and the registry that holds at the start and is kept by every event
holds after each of them. -/
theorem forall_mem_trail {sink : Sink σ} {conduct : Conduct} (holds : State → Prop)
    (hkept : ∀ recorder event, holds recorder.state →
      holds (process sink conduct recorder event).recorder.state)
    {recorder : Recorder σ} (h : holds recorder.state) (events : List Event) :
    ∀ passage ∈ trail sink conduct recorder events, holds passage.2.recorder.state := by
  induction events generalizing recorder with
  | nil => exact fun _ hmem => nomatch hmem
  | cons event events ih =>
    have hnext := hkept recorder event h
    intro passage hmem
    rcases List.mem_cons.mp hmem with rfl | hrest
    · exact hnext
    · exact ih hnext passage hrest

/-- The oracle is asked once for every binding and never else, whatever it replies and whichever
writes fail. The questions are the locators of the bindings that the registry has gained, in order;
after each event there are as many of them as ids with a name. The registry grants every request and
is asked for no other bindings. An event that is no element, has no locator or has a name already
asks nothing. -/
theorem asks_once_per_binding (sink : Sink σ) (conduct : Conduct) (collision : CollisionPolicy)
    (store : σ) (events : List Event) :
    let run := trail sink conduct ⟨.initial collision, store⟩ events
    let last := (processAll sink conduct ⟨.initial collision, store⟩ events).1.state
    last.asked = (run.filterMap gainedIn?).map (·.locator)
      ∧ last.asked.length = last.registry.bindings
      ∧ (∀ passage ∈ run, passage.2.recorder.state.asked.length
          = passage.2.recorder.state.registry.bindings)
      ∧ (events.zip run).filterMap (fun told => answerIn? conduct.oracle told.1 told.2)
          = (run.filterMap gainedIn?).map .bound
      ∧ ∀ event passage, (event, passage) ∈ events.zip run →
          event.kind ≠ .element ∨ passage.1.state.pending = none
            ∨ passage.1.state.registry.contains event.payload = true →
          passage.2.recorder.state.asked = passage.1.state.asked := by
  intro run last
  obtain ⟨hasked, hbindings⟩ := asked_processAll sink conduct ⟨.initial collision, store⟩ events
  refine ⟨hasked, ?_, ?_, answers_trail sink conduct _ events, ?_⟩
  · have hlength := congrArg List.length hasked
    rw [List.length_append, List.length_map] at hlength
    exact hlength.trans hbindings.symm
  · refine forall_mem_trail (fun state => state.asked.length = state.registry.bindings) ?_ rfl
      events
    intro recorder event hcount
    obtain ⟨hasked, hbindings, -⟩ := asksOnce_process sink conduct recorder event
    rw [hasked, hbindings, List.length_append, List.length_map, hcount]
  · intro event passage hmem hnothing
    have hrequest : request? conduct.oracle passage.1.state event = none := by
      cases hrequest : request? conduct.oracle passage.1.state event with
      | none => rfl
      | some request =>
        obtain ⟨rfl, hpending, hnew, -⟩ := request?_eq_some hrequest
        rcases hnothing with hkind | hidle | hknown
        · exact absurd rfl hkind
        · cases hpending.symm.trans hidle
        · simp [Registry.contains, hnew] at hknown
    rw [eq_process_of_mem_trail hmem]
    change (passage.1.process sink conduct event).recorder.state.asked = passage.1.state.asked
    rw [state_process]
    exact (step_of_request?_eq_none conduct.target hrequest).1

/-- A binding whose write fails is not asked for again, nor is an element that comes back. -/
example :
    let events : List Event := [⟨.locator, "//a".toList⟩, ⟨.element, ['1']⟩,
      ⟨.locator, "//a".toList⟩, ⟨.element, ['1']⟩, ⟨.element, ['2']⟩, ⟨.locator, "//b".toList⟩,
      ⟨.element, ['2']⟩]
    (processAll (Memory.sink { registry := [1] }) ⟨.oneShot, Oracle.offline⟩
      ⟨.initial .suffix, {}⟩ events).1.state.asked = ["//a".toList, "//b".toList] := by
  decide +kernel

end Recorder
end StepRecorder
