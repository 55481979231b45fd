import StepRecorder.Proofs.Correlation.Refused

/-!
The two sides of the correlation do not interfere. Locators and elements decide what is bound,
targets and typed texts decide what is armed; a click decides neither.

    events     locator   target   element   click   locator   typed   element
    binding    locator            element           locator           element
    arming               target                               typed

A run has on each side what the run of that side's events alone has. Two runs with the same events
on a side therefore agree there, whatever comes between.

Main statements: `agreesWith_only`, `target_after`, `sides_are_independent`.
-/

namespace StepRecorder

/-- The events of some kinds, in order. -/
def Event.only (kinds : List EventKind) (events : List Event) : List Event :=
  events.filter (·.kind ∈ kinds)

theorem Event.only_cons (kinds : List EventKind) (event : Event) (events : List Event) :
    Event.only kinds (event :: events)
      = if event.kind ∈ kinds then event :: Event.only kinds events
        else Event.only kinds events := by
  simp [Event.only, List.filter_cons]

namespace Correlation

/-- The kinds of events that bind elements. -/
def bindingKinds : List EventKind := [.locator, .element]

/-- The kinds of events that arm an element and use it. -/
def armingKinds : List EventKind := [.target, .typed]

/-- What the events of some kinds came to, in order. -/
def resultsOf {ρ : Type} (kinds : List EventKind) (events : List Event) (results : List ρ) :
    List ρ :=
  ((events.zip results).filter (·.1.kind ∈ kinds)).map (·.2)

theorem resultsOf_cons {ρ : Type} (kinds : List EventKind) (event : Event) (events : List Event)
    (result : ρ) (results : List ρ) : resultsOf kinds (event :: events) (result :: results)
      = if event.kind ∈ kinds then result :: resultsOf kinds events results
        else resultsOf kinds events results := by
  by_cases h : event.kind ∈ kinds <;> simp [resultsOf, h]

theorem resultsOf_map {ρ τ : Type} (kinds : List EventKind) (events : List Event) (f : ρ → τ)
    (results : List ρ) : resultsOf kinds events (results.map f)
      = (resultsOf kinds events results).map f := by
  induction events generalizing results with
  | nil => rfl
  | cons event events ih =>
    cases results with
    | nil => rfl
    | cons result results =>
      rw [List.map_cons, resultsOf_cons, resultsOf_cons, ih]
      split <;> rfl

/-- The registries that some steps ask to store, in order. -/
def snapshotsOf (effects : List Effect) : List (List (Text × Text)) :=
  (effects.filterMap (·.write)).flatMap snapshotsIn

theorem snapshotsOf_cons (effect : Effect) (effects : List Effect) :
    snapshotsOf (effect :: effects)
      = effect.write.toList.flatMap snapshotsIn ++ snapshotsOf effects := by
  cases h : effect.write <;> simp [snapshotsOf, h]

/-- States that bind elements alike: they differ in the armed element at most. -/
structure SameBindings (state other : State) : Prop where
  registry : state.registry = other.registry
  pending : state.pending = other.pending
  asked : state.asked = other.asked

theorem SameBindings.refl (state : State) : SameBindings state state := ⟨rfl, rfl, rfl⟩

theorem SameBindings.symm {state other : State} (h : SameBindings state other) :
    SameBindings other state :=
  ⟨h.registry.symm, h.pending.symm, h.asked.symm⟩

theorem SameBindings.trans {state other last : State} (h : SameBindings state other)
    (h' : SameBindings other last) : SameBindings state last :=
  ⟨h.registry.trans h'.registry, h.pending.trans h'.pending, h.asked.trans h'.asked⟩

variable {policy otherPolicy : TargetPolicy} {oracle otherOracle : Oracle}
  {state other next otherNext : State} {event : Event} {outcome otherOutcome : Outcome}
  {write otherWrite : Option Write}

/-! ### The binding side -/

theorem sameBindings_afterText (policy : TargetPolicy) (state : State) :
    SameBindings (afterText policy state) state := by
  cases policy <;> exact ⟨rfl, rfl, rfl⟩

/-- An interaction binds nothing, and asks to store no registry. -/
theorem Transition.sameBindings (h : Transition policy oracle state event next outcome write)
    (hkind : event.kind ∉ bindingKinds) :
    SameBindings next state ∧ write.toList.flatMap snapshotsIn = [] := by
  cases h with
  | tapped id name known => exact ⟨.refl state, rfl⟩
  | tapUnknown id unknown => exact ⟨.refl state, rfl⟩
  | armed id => exact ⟨⟨rfl, rfl, rfl⟩, rfl⟩
  | noTarget text target => exact ⟨.refl state, rfl⟩
  | entered text id name target known => exact ⟨sameBindings_afterText policy state, rfl⟩
  | enterUnknown text id target unknown => exact ⟨sameBindings_afterText policy state, rfl⟩
  | _ => exact absurd (by simp [bindingKinds]) hkind

theorem SameBindings.newName_eq (h : SameBindings state other) (oracle : Oracle)
    (locator : Text) : newName oracle state locator = newName oracle other locator := by
  rw [newName, newName, h.registry, h.asked]

theorem SameBindings.bound (h : SameBindings state other) (oracle : Oracle) (id locator : Text) :
    SameBindings (bound oracle state id locator) (bound oracle other id locator) := by
  refine ⟨?_, rfl, ?_⟩
  · simp only [Correlation.bound, h.newName_eq, h.registry]
  · simp only [Correlation.bound, h.asked]

/-- States that bind alike do so after an event that binds as well, and it comes to the same. -/
theorem SameBindings.step (h : SameBindings state other) (hkind : event.kind ∈ bindingKinds)
    (hstep : Transition policy oracle state event next outcome write)
    (hother : Transition otherPolicy oracle other event otherNext otherOutcome otherWrite) :
    SameBindings next otherNext ∧ outcome = otherOutcome ∧ write = otherWrite := by
  have hpending := h.pending
  have hnames : ∀ id, state.registry.nameOf? id = other.registry.nameOf? id :=
    fun id => by rw [h.registry]
  cases hstep with
  | locator locator =>
    cases hother with
    | locator => exact ⟨⟨h.registry, rfl, h.asked⟩, rfl, rfl⟩
  | nothingPending id pending =>
    cases hother with
    | nothingPending => exact ⟨h, rfl, rfl⟩
    | rebound _ locator _ otherPending => simp [pending, otherPending] at hpending
    | bound _ locator otherPending => simp [pending, otherPending] at hpending
  | rebound id locator name pending known =>
    cases hother with
    | nothingPending _ otherPending => simp [pending, otherPending] at hpending
    | rebound => exact ⟨⟨h.registry, rfl, h.asked⟩, rfl, rfl⟩
    | bound _ _ _ new => cases known.symm.trans ((hnames id).trans new)
  | bound id locator pending new =>
    cases hother with
    | nothingPending _ otherPending => simp [pending, otherPending] at hpending
    | rebound _ _ _ _ known => cases new.symm.trans ((hnames id).trans known)
    | bound _ otherLocator otherPending =>
      obtain rfl : locator = otherLocator :=
        Option.some.inj (pending.symm.trans (hpending.trans otherPending))
      have hbound := h.bound oracle id locator
      refine ⟨hbound, ?_, ?_⟩
      · rw [h.newName_eq]
      · rw [hbound.registry]
  | _ => simp [bindingKinds] at hkind

/-- Two runs that bind alike: they end in states that do, their elements came to the same, and they
ask to store the same registries. -/
structure AgreesWith (policy otherPolicy : TargetPolicy) (oracle : Oracle) (state other : State)
    (events others : List Event) : Prop where
  states : SameBindings (after policy oracle state events) (after otherPolicy oracle other others)
  elements : (resultsOf [.element] events (effects policy oracle state events)).map (·.outcome)
    = (resultsOf [.element] others (effects otherPolicy oracle other others)).map (·.outcome)
  snapshots : snapshotsOf (effects policy oracle state events)
    = snapshotsOf (effects otherPolicy oracle other others)

theorem AgreesWith.symm {events others : List Event}
    (h : AgreesWith policy otherPolicy oracle state other events others) :
    AgreesWith otherPolicy policy oracle other state others events :=
  ⟨h.states.symm, h.elements.symm, h.snapshots.symm⟩

theorem AgreesWith.trans {lastPolicy : TargetPolicy} {last : State}
    {events others more : List Event}
    (h : AgreesWith policy otherPolicy oracle state other events others)
    (h' : AgreesWith otherPolicy lastPolicy oracle other last others more) :
    AgreesWith policy lastPolicy oracle state last events more :=
  ⟨h.states.trans h'.states, h.elements.trans h'.elements, h.snapshots.trans h'.snapshots⟩

/-- A run binds like the run of its locators and elements alone, whatever the policies are. -/
theorem agreesWith_only (policy otherPolicy : TargetPolicy) (oracle : Oracle)
    (h : SameBindings state other) (events : List Event) :
    AgreesWith policy otherPolicy oracle state other events (Event.only bindingKinds events) := by
  induction events generalizing state other with
  | nil => exact ⟨h, rfl, rfl⟩
  | cons event events ih =>
    have hstep := transition_step policy oracle state event
    by_cases hkind : event.kind ∈ bindingKinds
    · obtain ⟨hnext, houtcome, hwrite⟩ :=
        h.step hkind hstep (transition_step otherPolicy oracle other event)
      obtain ⟨hstates, helements, hsnapshots⟩ := ih hnext
      rw [Event.only_cons, if_pos hkind]
      refine ⟨hstates, ?_, ?_⟩
      · rw [effects, effects, resultsOf_cons, resultsOf_cons]
        split
        · rw [List.map_cons, List.map_cons, houtcome, helements]
        · exact helements
      · rw [effects, effects, snapshotsOf_cons, snapshotsOf_cons, hwrite, hsnapshots]
    · -- an interaction is a step of the first run only
      obtain ⟨hsame, hnone⟩ := hstep.sameBindings hkind
      obtain ⟨hstates, helements, hsnapshots⟩ := ih (hsame.trans h)
      have helement : event.kind ∉ [EventKind.element] :=
        fun hmem => hkind (List.mem_cons_of_mem _ hmem)
      rw [Event.only_cons, if_neg hkind]
      refine ⟨hstates, ?_, ?_⟩
      · rw [effects, resultsOf_cons, if_neg helement, helements]
      · rw [effects, snapshotsOf_cons, hnone, List.nil_append, hsnapshots]

/-- Runs with the same locators and elements bind alike. -/
theorem agreesWith_of_only_eq (policy otherPolicy : TargetPolicy) (oracle : Oracle) (state : State)
    {events others : List Event}
    (h : Event.only bindingKinds events = Event.only bindingKinds others) :
    AgreesWith policy otherPolicy oracle state state events others := by
  have halone := agreesWith_only policy policy oracle (.refl state) events
  have hotherAlone := agreesWith_only otherPolicy policy oracle (.refl state) others
  exact halone.trans (h ▸ hotherAlone.symm)

/-! ### The arming side -/

/-- The element that is armed after an event. -/
def armedAfter (policy : TargetPolicy) (target : Option Text) (event : Event) : Option Text :=
  match event.kind, policy with
  | .target, _ => some event.payload
  | .typed, .oneShot => none
  | _, _ => target

theorem Transition.target_eq (h : Transition policy oracle state event next outcome write) :
    next.target = armedAfter policy state.target event := by
  cases h with
  | noTarget text target => cases policy <;> simp [armedAfter, target]
  | entered => cases policy <;> rfl
  | enterUnknown => cases policy <;> rfl
  | _ => rfl

/-- What is armed after a run is told by its targets and typed texts alone. -/
theorem target_after (policy : TargetPolicy) (oracle : Oracle) (state : State)
    (events : List Event) :
    (after policy oracle state events).target
      = (Event.only armingKinds events).foldl (armedAfter policy) state.target := by
  induction events generalizing state with
  | nil => rfl
  | cons event events ih =>
    have htarget := (transition_step policy oracle state event).target_eq
    refine (ih _).trans ?_
    rw [htarget]
    by_cases hkind : event.kind ∈ armingKinds
    · rw [Event.only_cons, if_pos hkind, List.foldl_cons]
    · have hsame : armedAfter policy state.target event = state.target := by
        obtain ⟨kind, payload⟩ := event
        cases kind with
        | target => exact absurd (by simp [armingKinds]) hkind
        | typed => exact absurd (by simp [armingKinds]) hkind
        | _ => rfl
      rw [Event.only_cons, if_neg hkind, hsame]

end Correlation

namespace Recorder

open Correlation

variable {σ : Type} {sink : Sink σ} {snapshots : σ → List (List (Text × Text))}
  {lines : σ → List Text}

/-- A sink that never fails stores all registries that it is asked to store. -/
theorem snapshots_deliver (hsink : sink.NeverFails) (hstores : sink.StoresOrFails snapshots lines)
    (store : σ) (writes : List Write) :
    snapshots (deliver sink store writes) = snapshots store ++ writes.flatMap snapshotsIn := by
  induction writes generalizing store with
  | nil => exact (List.append_nil _).symm
  | cons write writes ih =>
    have hfirst := (hstores.stored store write (hsink store write)).1
    have hrest := ih (sink.perform store write).store
    rw [hfirst, List.append_assoc] at hrest
    exact hrest

/-- The two sides do not interfere. Runs with the same locators and elements end with the same
registry, pending locator and questions to the oracle, their elements come to the same, and the same
registries are stored on the way. Runs with the same targets and typed texts end with the same armed
element. -/
theorem sides_are_independent (hsink : sink.NeverFails)
    (hstores : sink.StoresOrFails snapshots lines) (conduct : Conduct)
    (collision : CollisionPolicy) (store : σ) (events others : List Event) :
    let run := processAll sink conduct ⟨.initial collision, store⟩ events
    let other := processAll sink conduct ⟨.initial collision, store⟩ others
    (Event.only bindingKinds events = Event.only bindingKinds others →
        run.1.state.registry = other.1.state.registry
        ∧ run.1.state.pending = other.1.state.pending
        ∧ run.1.state.asked = other.1.state.asked
        ∧ resultsOf [.element] events run.2 = resultsOf [.element] others other.2
        ∧ snapshots run.1.store = snapshots other.1.store)
      ∧ (Event.only armingKinds events = Event.only armingKinds others →
          run.1.state.target = other.1.state.target) := by
  intro run other
  have hrun := processAll_of_neverFails conduct hsink ⟨.initial collision, store⟩ events
  have hother := processAll_of_neverFails conduct hsink ⟨.initial collision, store⟩ others
  constructor
  · intro hbinding
    obtain ⟨⟨hregistry, hpending, hasked⟩, helements, hsnapshots⟩ :=
      agreesWith_of_only_eq conduct.target conduct.target conduct.oracle (.initial collision)
        hbinding
    simp only [run, other, hrun, hother]
    refine ⟨hregistry, hpending, hasked, ?_, ?_⟩
    · have hresults := congrArg (List.map (Except.ok (ε := Failure))) helements
      simpa only [List.map_map, ← resultsOf_map, Function.comp_def] using hresults
    · rw [snapshots_deliver hsink hstores, snapshots_deliver hsink hstores]
      exact congrArg (snapshots store ++ ·) hsnapshots
  · intro harming
    simp only [run, other, hrun, hother, target_after, harming]

/-- The text comes before the element is bound, or after it: only in the second run it is written
down. The registries, and what is armed, are the same. -/
theorem sides_of_early_text :
    let conduct : Conduct := ⟨.oneShot, Oracle.offline⟩
    let locator : Event := ⟨.locator, "//a[@name='Mail']".toList⟩
    let next : Event := ⟨.locator, "//b".toList⟩
    let element : Event := ⟨.element, ['1']⟩
    let target : Event := ⟨.target, ['1']⟩
    let typed : Event := ⟨.typed, "me".toList⟩
    let click : Event := ⟨.click, ['1']⟩
    let events : List Event := [target, locator, typed, element, next, click]
    let others : List Event := [locator, element, target, click, next, typed]
    let run := processAll (Memory.sink {}) conduct ⟨.initial .suffix, {}⟩ events
    let other := processAll (Memory.sink {}) conduct ⟨.initial .suffix, {}⟩ others
    (Memory.sink {}).NeverFails
      ∧ (Memory.sink {}).StoresOrFails (·.snapshots) (·.lines)
      ∧ Event.only bindingKinds events = Event.only bindingKinds others
      ∧ Event.only armingKinds events = Event.only armingKinds others
      ∧ run.1.store.lines ≠ other.1.store.lines
      ∧ run.1.state.registry = other.1.state.registry
      ∧ run.1.store.snapshots = other.1.store.snapshots
      ∧ run.1.state.target = other.1.state.target := by
  intro conduct locator next element target typed click events others run other
  have hbinding : Event.only bindingKinds events = Event.only bindingKinds others := by
    decide +kernel
  have harming : Event.only armingKinds events = Event.only armingKinds others := by
    decide +kernel
  obtain ⟨hbound, harmed⟩ := sides_are_independent Memory.neverFails (Memory.storesOrFails {})
    conduct .suffix {} events others
  obtain ⟨hregistry, -, -, -, hsnapshots⟩ := hbound hbinding
  exact ⟨Memory.neverFails, Memory.storesOrFails {}, hbinding, harming, by decide +kernel,
    hregistry, hsnapshots, harmed harming⟩

end Recorder
end StepRecorder
