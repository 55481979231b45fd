import Mathlib.Data.List.Forall2
import StepRecorder.Proofs.Correlation.Run

/-!
What an event comes to, told by the events before it instead of by slots. The past is the list of
earlier events with what they came to; the last event of some kinds decides:

    element id    by the last locator or element:   a locator x binds id to x, unless id is bound
    click id      by the binding of id
    typed t       by the last target (under `oneShot` also the last typed text):
                  a target id enters t into id, if id is bound

`Tells` is that rule. `Remembers` says what the slots and the registry keep of the past; a step
obeys the rule and remembers one event more (`Remembers.tells`, `Remembers.step`).

Main statement: `outcomes_follow_history`.
-/

namespace StepRecorder.Correlation.History

/-- Earlier events, with what they came to. -/
abbrev Past := List (Event × Outcome)

/-- The last event of some kinds. -/
def last? (kinds : List EventKind) (past : Past) : Option Event :=
  ((past.map (·.1)).filter (·.kind ∈ kinds)).getLast?

/-- The name that an outcome gives to an id. -/
def nameIn? (id : Text) : Outcome → Option Text
  | .bound binding => if binding.id = id then some binding.name else none
  | _ => none

/-- The name of an id that was bound. -/
def nameOf? (id : Text) (past : Past) : Option Text := past.findSome? fun told => nameIn? id told.2

/-- What an interaction with the element of an id comes to. -/
def interaction (past : Past) (id : Text) (make : Text → Action) : Outcome :=
  match nameOf? id past with
  | some name => .recorded (make name)
  | none => .dropped .unknownElement

/-- The kinds of events that decide where a text goes. -/
def textKinds : TargetPolicy → List EventKind
  | .oneShot => [.target, .typed]
  | .sticky => [.target]

/-- What an event comes to. Only the name of a new binding is left open. -/
def Tells (policy : TargetPolicy) (past : Past) (event : Event) (outcome : Outcome) : Prop :=
  match event.kind with
  | .locator => outcome = .locatorPending
  | .element =>
    match last? [.locator, .element] past with
    | none => outcome = .dropped .noPendingLocator
    | some earlier =>
      if earlier.kind = .element then outcome = .dropped .noPendingLocator
      else if (nameOf? event.payload past).isSome then outcome = .dropped .alreadyBound
      else ∃ name, outcome = .bound ⟨event.payload, name, earlier.payload⟩
  | .click => outcome = interaction past event.payload .tap
  | .target => outcome = .armed
  | .typed =>
    match last? (textKinds policy) past with
    | none => outcome = .dropped .noTarget
    | some earlier =>
      if earlier.kind = .typed then outcome = .dropped .noTarget
      else outcome = interaction past earlier.payload (.enter event.payload)

/-- The text of an event of a kind. -/
def payloadIf (kind : EventKind) (event : Event) : Option Text :=
  if event.kind = kind then some event.payload else none

/-- A state that keeps of the past what the rule asks for. -/
structure Remembers (policy : TargetPolicy) (past : Past) (state : State) : Prop where
  pending : state.pending = (last? [.locator, .element] past).bind (payloadIf .locator)
  target : state.target = (last? (textKinds policy) past).bind (payloadIf .target)
  names : ∀ id, state.registry.nameOf? id = nameOf? id past

theorem last?_concat (kinds : List EventKind) (past : Past) (told : Event × Outcome) :
    last? kinds (past ++ [told])
      = if told.1.kind ∈ kinds then some told.1 else last? kinds past := by
  by_cases h : told.1.kind ∈ kinds <;> simp [last?, List.filter_append, h]

theorem nameOf?_concat (id : Text) (past : Past) (told : Event × Outcome) :
    nameOf? id (past ++ [told]) = (nameOf? id past).or (nameIn? id told.2) := by
  simp [nameOf?, List.findSome?_append]

theorem kind_of_last? {kinds : List EventKind} {past : Past} {event : Event}
    (h : last? kinds past = some event) : event.kind ∈ kinds := by
  have hmem := List.mem_of_getLast? h
  simpa using (List.mem_filter.mp hmem).2

/-! ### The slots and the past -/

section Slots

variable {kinds : List EventKind} {kind : EventKind} {past : Past}

theorem slot_eq_some {payload : Text}
    (h : (last? kinds past).bind (payloadIf kind) = some payload) :
    last? kinds past = some ⟨kind, payload⟩ := by
  obtain ⟨⟨earlierKind, earlierPayload⟩, hlast, hpayload⟩ := Option.bind_eq_some_iff.mp h
  unfold payloadIf at hpayload
  split at hpayload
  next hkind =>
    obtain rfl : earlierKind = kind := hkind
    obtain rfl : earlierPayload = payload := Option.some.inj hpayload
    exact hlast
  next => cases hpayload

theorem slot_eq_none (h : (last? kinds past).bind (payloadIf kind) = none) :
    last? kinds past = none
      ∨ ∃ earlier, last? kinds past = some earlier ∧ earlier.kind ∈ kinds
        ∧ earlier.kind ≠ kind := by
  cases hlast : last? kinds past with
  | none => exact Or.inl rfl
  | some earlier =>
    refine Or.inr ⟨earlier, rfl, kind_of_last? hlast, ?_⟩
    intro hkind
    simp [hlast, payloadIf, hkind] at h

end Slots

variable {policy : TargetPolicy} {oracle : Oracle} {past : Past} {state next : State}
  {event : Event} {outcome : Outcome} {write : Option Write}

/-- At the start nothing has happened. -/
theorem Remembers.initial (policy : TargetPolicy) (collision : CollisionPolicy) :
    Remembers policy [] (State.initial collision) :=
  ⟨rfl, rfl, fun _ => rfl⟩

theorem Remembers.pending_eq_some (h : Remembers policy past state) {locator : Text}
    (hpending : state.pending = some locator) :
    last? [.locator, .element] past = some ⟨.locator, locator⟩ :=
  slot_eq_some (h.pending.symm.trans hpending)

theorem Remembers.target_eq_some (h : Remembers policy past state) {id : Text}
    (htarget : state.target = some id) : last? (textKinds policy) past = some ⟨.target, id⟩ :=
  slot_eq_some (h.target.symm.trans htarget)

/-- A step comes to what the rule says. -/
theorem Remembers.tells (h : Remembers policy past state)
    (hstep : Transition policy oracle state event next outcome write) :
    Tells policy past event outcome := by
  cases hstep with
  | locator locator => rfl
  | nothingPending id pending =>
    rcases slot_eq_none (h.pending.symm.trans pending) with hnone | ⟨earlier, hlast, hmem, hkind⟩
    · simp [Tells, hnone]
    · have helement : earlier.kind = .element := by simpa [hkind] using hmem
      simp [Tells, hlast, helement]
  | rebound id locator name pending known =>
    have hknown : nameOf? id past = some name := (h.names id).symm.trans known
    simp [Tells, h.pending_eq_some pending, hknown]
  | bound id locator pending new =>
    have hnew : nameOf? id past = none := (h.names id).symm.trans new
    simp [Tells, h.pending_eq_some pending, hnew]
  | tapped id name known =>
    have hknown : nameOf? id past = some name := (h.names id).symm.trans known
    simp [Tells, interaction, hknown]
  | tapUnknown id unknown =>
    have hunknown : nameOf? id past = none := (h.names id).symm.trans unknown
    simp [Tells, interaction, hunknown]
  | armed id => rfl
  | noTarget text target =>
    rcases slot_eq_none (h.target.symm.trans target) with hnone | ⟨earlier, hlast, hmem, hkind⟩
    · simp [Tells, hnone]
    · have htyped : earlier.kind = .typed := by
        cases policy <;> simp_all [textKinds]
      simp [Tells, hlast, htyped]
  | entered text id name target known =>
    have hknown : nameOf? id past = some name := (h.names id).symm.trans known
    simp [Tells, interaction, h.target_eq_some target, hknown]
  | enterUnknown text id target unknown =>
    have hunknown : nameOf? id past = none := (h.names id).symm.trans unknown
    simp [Tells, interaction, h.target_eq_some target, hunknown]

/-- One event more is remembered where each slot is decided by the kinds that decide it, and the
registry has the name that the outcome gives. -/
theorem Remembers.concat (h : Remembers policy past state)
    (hpending : next.pending
      = if event.kind ∈ [.locator, .element] then payloadIf .locator event else state.pending)
    (htarget : next.target
      = if event.kind ∈ textKinds policy then payloadIf .target event else state.target)
    (hnames : ∀ id, next.registry.nameOf? id
      = (state.registry.nameOf? id).or (nameIn? id outcome)) :
    Remembers policy (past ++ [(event, outcome)]) next := by
  refine ⟨?_, ?_, fun id => ?_⟩
  · rw [hpending, last?_concat]
    split
    · rfl
    · exact h.pending
  · rw [htarget, last?_concat]
    split
    · rfl
    · exact h.target
  · rw [hnames, nameOf?_concat, h.names]

/-- A step remembers one event more. -/
theorem Remembers.step (h : Remembers policy past state)
    (hstep : Transition policy oracle state event next outcome write) :
    Remembers policy (past ++ [(event, outcome)]) next := by
  cases hstep with
  | locator locator =>
    refine h.concat ?_ ?_ fun other => ?_
    · simp [payloadIf]
    · cases policy <;> simp [textKinds]
    · simp [nameIn?]
  | nothingPending id pending =>
    refine h.concat ?_ ?_ fun other => ?_
    · simp [payloadIf, pending]
    · cases policy <;> simp [textKinds]
    · simp [nameIn?]
  | rebound id locator name pending known =>
    refine h.concat ?_ ?_ fun other => ?_
    · simp [payloadIf]
    · cases policy <;> simp [textKinds]
    · simp [nameIn?]
  | bound id locator pending new =>
    refine h.concat ?_ ?_ fun other => ?_
    · simp [payloadIf, Correlation.bound]
    · cases policy <;> simp [textKinds, Correlation.bound]
    · by_cases hother : other = id
      · subst hother
        simp [Correlation.bound, Registry.nameOf?_enter, new, nameIn?]
      · simp [Correlation.bound, Registry.nameOf?_enter, hother, Ne.symm hother, nameIn?]
  | tapped id name known =>
    refine h.concat ?_ ?_ fun other => ?_
    · simp
    · cases policy <;> simp [textKinds]
    · simp [nameIn?]
  | tapUnknown id unknown =>
    refine h.concat ?_ ?_ fun other => ?_
    · simp
    · cases policy <;> simp [textKinds]
    · simp [nameIn?]
  | armed id =>
    refine h.concat ?_ ?_ fun other => ?_
    · simp
    · cases policy <;> simp [textKinds, payloadIf]
    · simp [nameIn?]
  | noTarget text target =>
    refine h.concat ?_ ?_ fun other => ?_
    · simp
    · cases policy <;> simp [textKinds, payloadIf, target]
    · simp [nameIn?]
  | entered text id name target known =>
    refine h.concat ?_ ?_ fun other => ?_
    · cases policy <;> simp [afterText]
    · cases policy <;> simp [textKinds, payloadIf, afterText]
    · cases policy <;> simp [nameIn?, afterText]
  | enterUnknown text id target unknown =>
    refine h.concat ?_ ?_ fun other => ?_
    · cases policy <;> simp [afterText]
    · cases policy <;> simp [textKinds, payloadIf, afterText]
    · cases policy <;> simp [nameIn?, afterText]

/-! ### Runs -/

/-- The lines that are written for an outcome. -/
def linesOf : Outcome → List Text
  | .recorded action => action.lines
  | _ => []

/-- The lines that a write adds to a script. -/
def linesIn : Write → List Text
  | .action action => action.lines
  | .registry _ => []

/-- Whether something is written for an outcome. -/
def isWritten : Outcome → Bool
  | .bound _ => true
  | .recorded _ => true
  | _ => false

/-- The write that an outcome needs: for a binding a registry that has its locator, for an action
the action itself. -/
inductive Backs : Outcome → Write → Prop where
  | bound (binding : Binding) (entries : List (Text × Text))
      (entry : entries.lookup binding.name = some (Registry.expressionOf binding.locator)) :
    Backs (.bound binding) (.registry entries)
  | recorded (action : Action) : Backs (.recorded action) (.action action)

/-- What some events come to, and what is written for it. -/
structure Account (policy : TargetPolicy) (events : List Event) (outcomes : List Outcome)
    (writes : List Write) : Prop where
  all : outcomes.length = events.length
  tells : ∀ (i : Nat) event outcome, events[i]? = some event → outcomes[i]? = some outcome →
    Tells policy ((events.zip outcomes).take i) event outcome
  backed : List.Forall₂ Backs (outcomes.filter isWritten) writes
  lines : writes.flatMap linesIn = outcomes.flatMap linesOf

theorem Backs.lines_eq {outcome : Outcome} {write : Write} (h : Backs outcome write) :
    linesIn write = linesOf outcome := by
  cases h <;> rfl

theorem linesOf_of_not_isWritten {outcome : Outcome} (h : isWritten outcome = false) :
    linesOf outcome = [] := by
  cases outcome <;> first | rfl | cases h

/-- A step has a write exactly if its outcome needs one. -/
theorem backs_of_transition (hstep : Transition policy oracle state event next outcome write) :
    (isWritten outcome = false ∧ write = none)
      ∨ isWritten outcome = true ∧ ∃ needed, write = some needed ∧ Backs outcome needed := by
  cases hstep with
  | locator locator => exact Or.inl ⟨rfl, rfl⟩
  | nothingPending id pending => exact Or.inl ⟨rfl, rfl⟩
  | rebound id locator name pending known => exact Or.inl ⟨rfl, rfl⟩
  | bound id locator pending new =>
    refine Or.inr ⟨rfl, _, rfl, .bound _ _ ?_⟩
    simp [Correlation.bound, Registry.enter]
  | tapped id name known => exact Or.inr ⟨rfl, _, rfl, .recorded _⟩
  | tapUnknown id unknown => exact Or.inl ⟨rfl, rfl⟩
  | armed id => exact Or.inl ⟨rfl, rfl⟩
  | noTarget text target => exact Or.inl ⟨rfl, rfl⟩
  | entered text id name target known => exact Or.inr ⟨rfl, _, rfl, .recorded _⟩
  | enterUnknown text id target unknown => exact Or.inl ⟨rfl, rfl⟩

variable (policy oracle)

/-- Each write of a run is the one that its outcome needs. -/
theorem backs_effects (state : State) (events : List Event) :
    List.Forall₂ Backs
      (((effects policy oracle state events).map (·.outcome)).filter isWritten)
      ((effects policy oracle state events).filterMap (·.write)) := by
  induction events generalizing state with
  | nil => exact .nil
  | cons event events ih =>
    have hrest := ih (step policy oracle state event).state
    simp only [effects, List.map_cons, List.filter_cons, List.filterMap_cons]
    rcases backs_of_transition (transition_step policy oracle state event)
      with ⟨hnot, hnone⟩ | ⟨hwritten, needed, hsome, hbacks⟩
    · simpa only [hnot, hnone, Bool.false_eq_true, if_false] using hrest
    · simpa only [hwritten, hsome, if_true] using List.Forall₂.cons hbacks hrest

variable {policy oracle}

theorem lines_of_backs {outcomes : List Outcome} {writes : List Write}
    (h : List.Forall₂ Backs (outcomes.filter isWritten) writes) :
    writes.flatMap linesIn = outcomes.flatMap linesOf := by
  induction outcomes generalizing writes with
  | nil => cases h; rfl
  | cons outcome outcomes ih =>
    cases hwritten : isWritten outcome with
    | false =>
      rw [List.filter_cons, hwritten] at h
      rw [List.flatMap_cons, linesOf_of_not_isWritten hwritten, List.nil_append]
      exact ih h
    | true =>
      rw [List.filter_cons, hwritten] at h
      obtain ⟨write, rest, hbacks, hrest, rfl⟩ := List.forall₂_cons_left_iff.mp h
      rw [List.flatMap_cons, List.flatMap_cons, hbacks.lines_eq, ih hrest]

/-- Each step of a run comes to what the rule says about the events before it. -/
theorem Remembers.tells_effects (oracle : Oracle) (h : Remembers policy past state)
    (events : List Event) :
    let outcomes := (effects policy oracle state events).map (·.outcome)
    ∀ (i : Nat) event outcome, events[i]? = some event → outcomes[i]? = some outcome →
      Tells policy (past ++ (events.zip outcomes).take i) event outcome := by
  induction events generalizing past state with
  | nil =>
    intro outcomes i event outcome hevent
    simp at hevent
  | cons first events ih =>
    intro outcomes i event outcome hevent houtcome
    have hstep := transition_step policy oracle state first
    cases i with
    | zero =>
      obtain rfl : first = event := by simpa using hevent
      obtain rfl : (Correlation.step policy oracle state first).outcome = outcome := by
        simpa [outcomes, effects] using houtcome
      simpa using h.tells hstep
    | succ i =>
      have hrest := ih (h.step hstep) i event outcome (by simpa using hevent)
        (by simpa [outcomes, effects] using houtcome)
      simpa [outcomes, effects] using hrest

/-- With a sink that never fails, every event comes to what the events before it say, and the sink
gets one write for each outcome that needs one, in order. -/
theorem outcomes_follow_history {σ : Type} {sink : Sink σ} (hsink : sink.NeverFails)
    (conduct : Conduct) (collision : CollisionPolicy) (store : σ) (events : List Event) :
    ∃ outcomes writes,
      Account conduct.target events outcomes writes
      ∧ (Recorder.processAll sink conduct ⟨.initial collision, store⟩ events).2
          = outcomes.map Except.ok
      ∧ (Recorder.processAll sink conduct ⟨.initial collision, store⟩ events).1.store
          = Recorder.deliver sink store writes := by
  have hremembers := Remembers.initial conduct.target collision
  have hbacks := backs_effects conduct.target conduct.oracle (.initial collision) events
  rw [Recorder.processAll_of_neverFails conduct hsink]
  refine ⟨_, _, ⟨?_, ?_, hbacks, lines_of_backs hbacks⟩, ?_, rfl⟩
  · simp
  · simpa using hremembers.tells_effects conduct.oracle events
  · simp

/-- A text after a text has no target under `oneShot`, and an element is bound once. -/
theorem outcomes_of_login :
    (Memory.sink {}).NeverFails ∧
    ∃ writes, Account .oneShot
      [⟨.locator, "//a[@name='Mail']".toList⟩, ⟨.element, "e1".toList⟩, ⟨.target, "e1".toList⟩,
        ⟨.typed, "me".toList⟩, ⟨.typed, "me".toList⟩, ⟨.element, "e1".toList⟩]
      [.locatorPending, .bound ⟨"e1".toList, "Mail".toList, "//a[@name='Mail']".toList⟩, .armed,
        .recorded (.enter "me".toList "Mail".toList), .dropped .noTarget,
        .dropped .noPendingLocator] writes := by
  obtain ⟨outcomes, writes, haccount, hresults, -⟩ :=
    outcomes_follow_history Memory.neverFails ⟨.oneShot, Oracle.offline⟩ .suffix {}
      [⟨.locator, "//a[@name='Mail']".toList⟩, ⟨.element, "e1".toList⟩, ⟨.target, "e1".toList⟩,
        ⟨.typed, "me".toList⟩, ⟨.typed, "me".toList⟩, ⟨.element, "e1".toList⟩]
  have houtcomes : outcomes =
      [.locatorPending, .bound ⟨"e1".toList, "Mail".toList, "//a[@name='Mail']".toList⟩, .armed,
        .recorded (.enter "me".toList "Mail".toList), .dropped .noTarget,
        .dropped .noPendingLocator] := by
    apply List.map_injective_iff.mpr (fun a b h => Except.ok.inj h)
    exact hresults.symm.trans (by decide +kernel)
  exact ⟨Memory.neverFails, writes, houtcomes ▸ haccount⟩

end StepRecorder.Correlation.History
