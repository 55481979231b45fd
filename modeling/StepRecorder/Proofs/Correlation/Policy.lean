import StepRecorder.Proofs.Correlation.Independence

/-!
What is recorded under `oneShot` is recorded under `sticky` as well. The two runs bind alike, and
the armed element of the first is that of the second, or was used already:

    events      target 1   typed a   typed b   target 2   typed c
    oneShot     1          -         -         2          -
    sticky      1          1         1         2          2
    recorded               both      sticky               both

Only a typed text that follows another one with no target in between makes a difference.

Main statements: `Lags.actions_sublist`, `actions_eq_of_rearmed`, `one_shot_within_sticky`.
-/

namespace StepRecorder

open Correlation

/-- Before the first typed text there is a target. -/
def Event.ArmedFirst (events : List Event) : Prop :=
  ∀ before text after, events = before ++ text :: after → text.kind = .typed →
    ∃ event ∈ before, event.kind = .target

/-- Between any two typed texts there is a target. -/
def Event.Rearmed (events : List Event) : Prop :=
  ∀ before first between second after,
    events = before ++ first :: (between ++ second :: after) →
    first.kind = .typed → second.kind = .typed → ∃ event ∈ between, event.kind = .target

namespace Event

variable {event : Event} {events : List Event}

theorem armedFirst_nil : ArmedFirst [] := by
  intro before text after h
  cases (List.append_eq_nil_iff.mp h.symm).2

/-- A target comes first, or neither comes first and a target comes first in what follows. -/
theorem armedFirst_cons : ArmedFirst (event :: events)
    ↔ event.kind = .target ∨ event.kind ≠ .typed ∧ ArmedFirst events := by
  constructor
  · intro h
    by_cases htarget : event.kind = .target
    · exact Or.inl htarget
    refine Or.inr ⟨fun htyped => ?_, ?_⟩
    · obtain ⟨_, hnone, -⟩ := h [] event events rfl htyped
      cases hnone
    · rintro before text after rfl htext
      obtain ⟨earlier, hearlier, hkind⟩ := h (event :: before) text after rfl htext
      rcases List.mem_cons.mp hearlier with rfl | hmem
      · exact absurd hkind htarget
      · exact ⟨earlier, hmem, hkind⟩
  · rintro h before text after hparts htext
    cases before with
    | nil =>
      obtain ⟨rfl, -⟩ := List.cons.inj hparts
      rcases h with htarget | ⟨htyped, -⟩
      · cases htext.symm.trans htarget
      · exact absurd htext htyped
    | cons first before =>
      obtain ⟨rfl, hrest⟩ := List.cons.inj hparts
      rcases h with htarget | ⟨-, harmed⟩
      · exact ⟨event, List.mem_cons_self, htarget⟩
      · obtain ⟨earlier, hearlier, hkind⟩ := harmed before text after hrest htext
        exact ⟨earlier, List.mem_cons_of_mem event hearlier, hkind⟩

theorem rearmed_nil : Rearmed [] := by
  intro before first between second after h
  cases (List.append_eq_nil_iff.mp h.symm).2

theorem rearmed_cons : Rearmed (event :: events)
    ↔ (event.kind = .typed → ArmedFirst events) ∧ Rearmed events := by
  constructor
  · intro h
    refine ⟨?_, ?_⟩
    · rintro htyped before text after rfl
      exact h [] event before text after rfl htyped
    · rintro before first between second after rfl
      exact h (event :: before) first between second after rfl
  · rintro ⟨harmed, hrest⟩ before first between second after hparts hfirst
    cases before with
    | nil =>
      obtain ⟨rfl, hevents⟩ := List.cons.inj hparts
      exact harmed hfirst between second after hevents
    | cons earlier before =>
      exact hrest before first between second after (List.cons.inj hparts).2 hfirst

end Event

namespace Correlation

/-- The action that an event comes to, told by the registry and the armed element. -/
def recordable (registry : Registry) (target : Option Text) (event : Event) : Option Action :=
  match event.kind with
  | .click => (registry.nameOf? event.payload).map .tap
  | .typed => (target.bind registry.nameOf?).map (.enter event.payload)
  | _ => none

/-- The actions that some steps record, in order. -/
def actionsOf (effects : List Effect) : List Action := effects.flatMap (·.outcome.actions)

variable {policy otherPolicy : TargetPolicy} {oracle : Oracle}
  {state other next otherNext : State} {event : Event} {outcome otherOutcome : Outcome}
  {write otherWrite : Option Write}

theorem Transition.actions_eq (h : Transition policy oracle state event next outcome write) :
    outcome.actions = (recordable state.registry state.target event).toList := by
  cases h with
  | tapped id name known => simp [Outcome.actions, recordable, known]
  | tapUnknown id unknown => simp [Outcome.actions, recordable, unknown]
  | noTarget text target => simp [Outcome.actions, recordable, target]
  | entered text id name target known => simp [Outcome.actions, recordable, target, known]
  | enterUnknown text id target unknown => simp [Outcome.actions, recordable, target, unknown]
  | _ => rfl

/-- States that bind alike do so after any event. -/
theorem SameBindings.keeps (h : SameBindings state other)
    (hstep : Transition policy oracle state event next outcome write)
    (hother : Transition otherPolicy oracle other event otherNext otherOutcome otherWrite) :
    SameBindings next otherNext := by
  by_cases hkind : event.kind ∈ bindingKinds
  · exact (h.step hkind hstep hother).1
  · exact ((hstep.sameBindings hkind).1.trans h).trans (hother.sameBindings hkind).1.symm

/-- A state under `oneShot` beside one under `sticky`: the armed element is the same, or was used
already. -/
structure Lags (state other : State) : Prop where
  bindings : SameBindings state other
  target : state.target = none ∨ state.target = other.target

theorem Lags.step (h : Lags state other)
    (hstep : Transition .oneShot oracle state event next outcome write)
    (hother : Transition .sticky oracle other event otherNext otherOutcome otherWrite) :
    Lags next otherNext ∧ outcome.actions.Sublist otherOutcome.actions := by
  obtain ⟨hbindings, htarget⟩ := h
  refine ⟨⟨hbindings.keeps hstep hother, ?_⟩, ?_⟩
  · rw [hstep.target_eq, hother.target_eq]
    obtain ⟨kind, payload⟩ := event
    cases kind with
    | target => exact Or.inr rfl
    | typed => exact Or.inl rfl
    | _ => exact htarget
  · rw [hstep.actions_eq, hother.actions_eq, hbindings.registry]
    rcases htarget with hnone | hsame
    · rw [hnone]
      obtain ⟨kind, payload⟩ := event
      cases kind with
      | typed => exact List.nil_sublist _
      | _ => exact List.Sublist.refl _
    · rw [hsame]

/-- The actions under `oneShot` are among those under `sticky`, in the same order. -/
theorem Lags.actions_sublist (h : Lags state other) (events : List Event) :
    (actionsOf (effects .oneShot oracle state events)).Sublist
      (actionsOf (effects .sticky oracle other events)) := by
  induction events generalizing state other with
  | nil => exact List.Sublist.refl _
  | cons event events ih =>
    obtain ⟨hnext, hactions⟩ := h.step (transition_step .oneShot oracle state event)
      (transition_step .sticky oracle other event)
    exact hactions.append (ih hnext)

/-- Where the armed elements are the same, or are going to be before they are used, and are so again
after each use, the actions are the same. -/
theorem actions_eq_of_rearmed (h : SameBindings state other) {events : List Event}
    (hfirst : state.target = other.target ∨ Event.ArmedFirst events)
    (hbetween : Event.Rearmed events) :
    actionsOf (effects .oneShot oracle state events)
      = actionsOf (effects .sticky oracle other events) := by
  induction events generalizing state other with
  | nil => rfl
  | cons event events ih =>
    have hstep := transition_step .oneShot oracle state event
    have hother := transition_step .sticky oracle other event
    have hactions : (step .oneShot oracle state event).outcome.actions
        = (step .sticky oracle other event).outcome.actions := by
      rw [hstep.actions_eq, hother.actions_eq, h.registry]
      rcases hfirst with hsame | harmed
      · rw [hsame]
      · have hkind : event.kind ≠ .typed := by
          rcases Event.armedFirst_cons.mp harmed with htarget | ⟨htyped, -⟩
          · rw [htarget]
            decide
          · exact htyped
        obtain ⟨kind, payload⟩ := event
        cases kind with
        | typed => exact absurd rfl hkind
        | _ => rfl
    have hrest : (step .oneShot oracle state event).state.target
          = (step .sticky oracle other event).state.target ∨ Event.ArmedFirst events := by
      rw [hstep.target_eq, hother.target_eq]
      by_cases htyped : event.kind = .typed
      · -- only one of the two is disarmed, but the next text has a target before it
        exact Or.inr ((Event.rearmed_cons.mp hbetween).1 htyped)
      · by_cases htarget : event.kind = .target
        · exact Or.inl (by simp [armedAfter, htarget])
        · rcases hfirst with hsame | harmed
          · obtain ⟨kind, payload⟩ := event
            cases kind with
            | target => exact absurd rfl htarget
            | typed => exact absurd rfl htyped
            | _ => exact Or.inl hsame
          · exact Or.inr ((Event.armedFirst_cons.mp harmed).resolve_left htarget).2
    have htail := ih (h.keeps hstep hother) hrest (Event.rearmed_cons.mp hbetween).2
    simp only [actionsOf, effects, List.flatMap_cons, hactions] at htail ⊢
    rw [htail]

end Correlation

namespace Recorder

variable {σ : Type} {sink : Sink σ} {snapshots : σ → List (List (Text × Text))}
  {lines : σ → List Text}

/-- The actions that were recorded, in order. -/
def recorded (results : List (Except Failure Outcome)) : List Action :=
  results.flatMap fun result =>
    match result with
    | .ok outcome => outcome.actions
    | .error _ => []

theorem recorded_map_ok (effects : List Effect) :
    recorded (effects.map fun effect => .ok effect.outcome) = actionsOf effects := by
  rw [recorded, List.flatMap_map]
  rfl

/-- Of the same events, what is recorded under `oneShot` is among what is recorded under `sticky`,
in the same order; what is bound, asked and stored of the registry is the same. Where between any
two typed texts there is a target, the actions are the same. Before the first text no target is
needed, since without one neither run has an armed element. -/
theorem one_shot_within_sticky (hsink : sink.NeverFails)
    (hstores : sink.StoresOrFails snapshots lines) (oracle : Oracle) (collision : CollisionPolicy)
    (store : σ) (events : List Event) :
    let oneShot := processAll sink ⟨.oneShot, oracle⟩ ⟨.initial collision, store⟩ events
    let sticky := processAll sink ⟨.sticky, oracle⟩ ⟨.initial collision, store⟩ events
    oneShot.1.state.registry = sticky.1.state.registry
      ∧ snapshots oneShot.1.store = snapshots sticky.1.store
      ∧ oneShot.1.state.asked = sticky.1.state.asked
      ∧ (recorded oneShot.2).Sublist (recorded sticky.2)
      ∧ (Event.Rearmed events → recorded oneShot.2 = recorded sticky.2) := by
  intro oneShot sticky
  have hstart : SameBindings (State.initial collision) (State.initial collision) := .refl _
  obtain ⟨⟨hregistry, -, hasked⟩, -, hsnapshots⟩ :=
    agreesWith_of_only_eq .oneShot .sticky oracle (.initial collision)
      (rfl : Event.only bindingKinds events = Event.only bindingKinds events)
  have hlags : Lags (State.initial collision) (State.initial collision) := ⟨hstart, Or.inl rfl⟩
  simp only [oneShot, sticky, processAll_of_neverFails _ hsink, recorded_map_ok,
    snapshots_deliver hsink hstores]
  refine ⟨hregistry, congrArg (snapshots store ++ ·) hsnapshots, hasked,
    hlags.actions_sublist events, ?_⟩
  intro hrearmed
  exact actions_eq_of_rearmed hstart (Or.inl rfl) hrearmed

/-- The second text is recorded under `sticky` only. With a target before it, it is recorded under
both. -/
theorem one_shot_of_two_texts :
    let locator : Event := ⟨.locator, "//a[@name='Mail']".toList⟩
    let element : Event := ⟨.element, ['1']⟩
    let target : Event := ⟨.target, ['1']⟩
    let events : List Event := [locator, element, target, ⟨.typed, ['a']⟩, ⟨.typed, ['b']⟩]
    let rearmed : List Event := [locator, element, target, ⟨.typed, ['a']⟩, target, ⟨.typed, ['b']⟩]
    let oneShot := processAll (Memory.sink {}) ⟨.oneShot, Oracle.offline⟩ ⟨.initial .suffix, {}⟩
    let sticky := processAll (Memory.sink {}) ⟨.sticky, Oracle.offline⟩ ⟨.initial .suffix, {}⟩
    (Memory.sink {}).NeverFails
      ∧ (Memory.sink {}).StoresOrFails (·.snapshots) (·.lines)
      ∧ Event.Rearmed rearmed
      ∧ recorded (oneShot events).2 = [.enter ['a'] "Mail".toList]
      ∧ recorded (sticky events).2 = [.enter ['a'] "Mail".toList, .enter ['b'] "Mail".toList]
      ∧ (recorded (oneShot events).2).Sublist (recorded (sticky events).2)
      ∧ recorded (oneShot rearmed).2 = recorded (sticky rearmed).2 := by
  intro locator element target events rearmed oneShot sticky
  have hrearmed : Event.Rearmed rearmed := by
    simp [rearmed, locator, element, target, Event.rearmed_cons, Event.rearmed_nil,
      Event.armedFirst_cons, Event.armedFirst_nil]
  obtain ⟨-, -, -, hsublist, -⟩ := one_shot_within_sticky Memory.neverFails
    (Memory.storesOrFails {}) Oracle.offline .suffix {} events
  obtain ⟨-, -, -, -, hequal⟩ := one_shot_within_sticky Memory.neverFails
    (Memory.storesOrFails {}) Oracle.offline .suffix {} rearmed
  exact ⟨Memory.neverFails, Memory.storesOrFails {}, hrearmed, by decide +kernel,
    by decide +kernel, hsublist, hequal hrearmed⟩

end Recorder
end StepRecorder
