import StepRecorder.Proofs.Correlation.Questions
import StepRecorder.Proofs.Ordered
import StepRecorder.Proofs.Recording

/-!
What a recording takes and what it writes. The trace of a run has an item for each line that is
taken, with the write that was made for it; the counters of the recording and the sizes of its
registry are read off the trace:

    line taken                     lines + 1
    ├─ without an event
    └─ with an event               events + 1
       ├─ binds an element         bindings + 1, registry.bindings + 1, a snapshot is written
       ├─ records an action        actions + 1, an action is written
       └─ comes to nothing

This needs nothing of the disk, of the sink or of the follower. A write that the sink refuses ends
the recording, and only then the registry is ahead of the counter.

Main statements: `accounts_act` for an act, `accounts_run` for a run.
-/

namespace StepRecorder

namespace Correlation

variable {policy : TargetPolicy} {oracle : Oracle} {state next : State} {event : Event}
  {outcome : Outcome} {write : Option Write}

/-- The registry has an id more exactly if an element was bound. -/
theorem Transition.registry_bindings
    (h : Transition policy oracle state event next outcome write) :
    next.registry.bindings = state.registry.bindings + outcome.bindings := by
  cases h with
  | bound id locator pending new => exact Registry.bindings_enter new _ _
  | entered text id name target known => rw [registry_afterText]; rfl
  | enterUnknown text id target unknown => rw [registry_afterText]; rfl
  | _ => rfl

/-- No more entries come to the registry than ids. -/
theorem Transition.registry_size
    (h : Transition policy oracle state event next outcome write) :
    next.registry.size ≤ state.registry.size + outcome.bindings := by
  cases h with
  | bound id locator pending new => exact Ordered.length_put_le _ _ _
  | entered text id name target known => exact Nat.le_of_eq (by rw [registry_afterText]; rfl)
  | enterUnknown text id target unknown => exact Nat.le_of_eq (by rw [registry_afterText]; rfl)
  | _ => exact Nat.le_refl _

/-- A snapshot is written exactly if an element was bound. -/
theorem Transition.length_snapshots
    (h : Transition policy oracle state event next outcome write) :
    (write.toList.flatMap snapshotsIn).length = outcome.bindings := by
  cases h <;> rfl

/-- An event binds an element, records an action, or does neither. -/
theorem Outcome.bindings_add_actions_le (outcome : Outcome) :
    outcome.bindings + outcome.actions.length ≤ 1 := by
  cases outcome <;> simp [bindings, actions]

end Correlation

namespace Recording

variable (conduct : Conduct) {recording before middle after : Recording} {event : Event}

/-! ### The trace -/

/-- A line that was taken, and what was written for it. -/
structure Taken where
  text : Text
  write : Option Correlation.Write

/-- What is written for an event: the write of its step, unless the sink refuses that. -/
def stored? (recording : Recording) (event : Event) : Option Correlation.Write :=
  (recording.effect conduct event).write.filter fun write =>
    (recording.sink.perform recording.recorder.store write).result.isOk

/-- A line as a recording takes it. -/
def takenLine (recording : Recording) (text : Text) : Taken :=
  ⟨text, (Event.ofLine? text).bind (recording.stored? conduct)⟩

/-- What an act takes from the log. -/
def taken? (recording : Recording) : Act → Option Taken
  | .append _ => none
  | .poll => recording.nextText?.map (recording.takenLine conduct)

theorem texts_taken? (recording : Recording) :
    (recording.taken? conduct .poll).toList.map (·.text) = recording.nextText?.toList := by
  rw [taken?]
  cases recording.nextText? <;> rfl

/-- What some acts take from the log, one after the other. -/
def trace (log : Text) : Recording → List Act → List Taken
  | _, [] => []
  | recording, act :: acts =>
    (recording.taken? conduct act).toList ++ trace log (recording.act conduct log act) acts

/-- The events in the lines of a trace. -/
def eventsIn (taken : List Taken) : List Event :=
  taken.filterMap fun line => Event.ofLine? line.text

/-- The registries that a trace has written. -/
def snapshotsIn (taken : List Taken) : List (List (Text × Text)) :=
  taken.flatMap fun line => line.write.toList.flatMap Correlation.snapshotsIn

/-- The actions that a trace has written. -/
def actionsIn (taken : List Taken) : List Action :=
  taken.flatMap fun line => Correlation.actionsIn line.write

/-! ### Accounts -/

/-- The counters and sizes of a recording have grown by what it took and wrote. -/
structure Accounts (before after : Recording) (taken : List Taken) : Prop where
  lines : after.follower.linesRead = before.follower.linesRead + taken.length
  events : after.events = before.events + (eventsIn taken).length
  bindings : after.bindings = before.bindings + (snapshotsIn taken).length
  actions : after.actions = before.actions + (actionsIn taken).length
  writes_le : (snapshotsIn taken).length + (actionsIn taken).length ≤ (eventsIn taken).length
  /-- While no write is refused, the registry keeps up with the counter. -/
  unfailed : after.failure = none → before.failure = none
    ∧ after.recorder.state.registry.bindings
      = before.recorder.state.registry.bindings + (snapshotsIn taken).length
  size_le : after.recorder.state.registry.size + before.recorder.state.registry.bindings
    ≤ before.recorder.state.registry.size + after.recorder.state.registry.bindings

namespace Accounts

/-- What changes nothing that is counted. -/
theorem of_eq (hlines : after.follower.linesRead = before.follower.linesRead)
    (hevents : after.events = before.events) (hbindings : after.bindings = before.bindings)
    (hactions : after.actions = before.actions)
    (hfailure : after.failure = none → before.failure = none)
    (hstate : after.recorder.state = before.recorder.state) : Accounts before after [] :=
  ⟨hlines, hevents, hbindings, hactions, Nat.le_refl _, fun h => ⟨hfailure h, by rw [hstate]; rfl⟩,
    by rw [hstate]⟩

theorem trans {first second : List Taken} (h : Accounts before middle first)
    (h' : Accounts middle after second) : Accounts before after (first ++ second) := by
  have hevents : (eventsIn (first ++ second)).length
      = (eventsIn first).length + (eventsIn second).length := by simp [eventsIn]
  have hsnapshots : (snapshotsIn (first ++ second)).length
      = (snapshotsIn first).length + (snapshotsIn second).length := by simp [snapshotsIn]
  have hactions : (actionsIn (first ++ second)).length
      = (actionsIn first).length + (actionsIn second).length := by simp [actionsIn]
  refine ⟨?lines, ?events, ?bindings, ?actions, ?writes, ?unfailed, ?size⟩
  case lines => rw [h'.lines, h.lines, List.length_append, Nat.add_assoc]
  case events => rw [h'.events, h.events, hevents, Nat.add_assoc]
  case bindings => rw [h'.bindings, h.bindings, hsnapshots, Nat.add_assoc]
  case actions => rw [h'.actions, h.actions, hactions, Nat.add_assoc]
  case writes =>
    have := h.writes_le
    have := h'.writes_le
    omega
  case unfailed =>
    intro hafter
    obtain ⟨hmiddle, hsecond⟩ := h'.unfailed hafter
    obtain ⟨hbefore, hfirst⟩ := h.unfailed hmiddle
    exact ⟨hbefore, by rw [hsecond, hfirst, hsnapshots, Nat.add_assoc]⟩
  case size =>
    have := h.size_le
    have := h'.size_le
    omega

end Accounts

/-! ### Events and lines -/

/-- Either the write of an event is made, or the sink refuses it. -/
theorem process_cases (recording : Recording) (event : Event) :
    let done := recording.recorder.process recording.sink conduct event
    done.result = .ok (recording.effect conduct event).outcome
        ∧ recording.stored? conduct event = (recording.effect conduct event).write
      ∨ (∃ failure, done.result = .error failure) ∧ recording.stored? conduct event = none := by
  intro done
  cases hwrite : (recording.effect conduct event).write with
  | none =>
    refine Or.inl ⟨(Recorder.process_of_write_none conduct recording.sink hwrite).2, ?_⟩
    rw [stored?, hwrite]
    rfl
  | some write =>
    have hresult := (Recorder.process_of_write_some conduct recording.sink hwrite).2
    change done.result = _ at hresult
    cases hperform : (recording.sink.perform recording.recorder.store write).result with
    | ok _ =>
      rw [hperform] at hresult
      exact Or.inl ⟨hresult, by simp [stored?, hwrite, hperform, Except.isOk, Except.toBool]⟩
    | error failure =>
      rw [hperform] at hresult
      exact Or.inr ⟨⟨failure, hresult⟩,
        by simp [stored?, hwrite, hperform, Except.isOk, Except.toBool]⟩

/-- An event whose write is made. -/
theorem takes_onEvent (recording : Recording)
    (h : (recording.recorder.process recording.sink conduct event).result
      = .ok (recording.effect conduct event).outcome) :
    recording.Takes conduct event (recording.onEvent conduct event)
      ∧ (recording.onEvent conduct event).follower = recording.follower := by
  have hstate := Recorder.state_process conduct recording.sink recording.recorder event
  simp only [onEvent, h, count_eq]
  exact ⟨⟨rfl, rfl, hstate, rfl, rfl, rfl⟩, trivial⟩

/-- An event whose write is refused. -/
theorem onEvent_of_error (recording : Recording) {failure : Failure}
    (h : (recording.recorder.process recording.sink conduct event).result = .error failure) :
    ∃ notices, recording.onEvent conduct event
      = { recording with
          recorder := (recording.recorder.process recording.sink conduct event).recorder
          events := recording.events + 1
          notices
          failure := some failure } := by
  simp only [onEvent, h]
  exact ⟨_, rfl⟩

/-- What a line with an event adds to the trace. -/
theorem takenLine_of_event (recording : Recording) {text : Text}
    (h : Event.ofLine? text = some event) :
    eventsIn [recording.takenLine conduct text] = [event]
      ∧ (recording.takenLine conduct text).write = recording.stored? conduct event := by
  constructor
  · simp [eventsIn, takenLine, h]
  · rw [takenLine, h]
    rfl

theorem transition_effect (recording : Recording) (event : Event) :
    Correlation.Transition conduct.target conduct.oracle recording.recorder.state event
      (recording.effect conduct event).state (recording.effect conduct event).outcome
      (recording.effect conduct event).write :=
  Correlation.transition_step ..

/-- An event whose write is made is accounted for. -/
theorem accounts_of_stored {follower : Follower} {text : Text}
    (hevent : Event.ofLine? text = some event) (hfailure : recording.failure = none)
    (hlines : follower.linesRead = recording.follower.linesRead + 1)
    (hresult : (recording.recorder.process recording.sink conduct event).result
      = .ok (recording.effect conduct event).outcome)
    (hstored : recording.stored? conduct event = (recording.effect conduct event).write) :
    Accounts recording ({ recording with follower }.onEvent conduct event)
      [recording.takenLine conduct text] := by
  obtain ⟨hevents, hwrite⟩ := takenLine_of_event conduct recording hevent
  have hstep := transition_effect conduct recording event
  obtain ⟨htakes, hfollower⟩ := takes_onEvent conduct { recording with follower } hresult
  have hsnapshots : (snapshotsIn [recording.takenLine conduct text]).length
      = (recording.effect conduct event).outcome.bindings := by
    simpa [snapshotsIn, hwrite, hstored] using hstep.length_snapshots
  have hactions : actionsIn [recording.takenLine conduct text]
      = (recording.effect conduct event).outcome.actions := by
    simpa [actionsIn, hwrite, hstored] using hstep.actions.symm
  have hstate : ({ recording with follower }.onEvent conduct event).recorder.state
      = (recording.effect conduct event).state := htakes.state
  refine ⟨?lines, ?events, ?bindings, ?actions, ?writes, fun _ => ⟨hfailure, ?registry⟩, ?size⟩
  case lines =>
    rw [hfollower]
    exact hlines
  case events =>
    rw [hevents]
    exact htakes.events
  case bindings =>
    rw [hsnapshots]
    exact htakes.bindings
  case actions =>
    rw [hactions]
    exact htakes.actions
  case writes =>
    rw [hsnapshots, hactions, hevents]
    exact Correlation.Outcome.bindings_add_actions_le _
  case registry => rw [hstate, hstep.registry_bindings, hsnapshots]
  case size =>
    have hbindings := hstep.registry_bindings
    have hsize := hstep.registry_size
    rw [hstate]
    omega

/-- An event whose write is refused is accounted for: it is counted, and nothing was written. -/
theorem accounts_of_refused {follower : Follower} {text : Text} {failure : Failure}
    (hevent : Event.ofLine? text = some event)
    (hlines : follower.linesRead = recording.follower.linesRead + 1)
    (hresult : (recording.recorder.process recording.sink conduct event).result = .error failure)
    (hstored : recording.stored? conduct event = none) :
    Accounts recording ({ recording with follower }.onEvent conduct event)
      [recording.takenLine conduct text] := by
  obtain ⟨hevents, hwrite⟩ := takenLine_of_event conduct recording hevent
  obtain ⟨notices, hnext⟩ := onEvent_of_error conduct { recording with follower } hresult
  have hsnapshots : snapshotsIn [recording.takenLine conduct text] = [] := by
    simp [snapshotsIn, hwrite, hstored]
  have hactions : actionsIn [recording.takenLine conduct text] = [] := by
    simp [actionsIn, hwrite, hstored, Correlation.actionsIn]
  rw [hnext]
  refine ⟨hlines, ?events, ?bindings, ?actions, ?writes,
    fun hnone => absurd hnone (Option.some_ne_none failure), ?size⟩
  case events =>
    rw [hevents]
    rfl
  case bindings =>
    rw [hsnapshots]
    rfl
  case actions =>
    rw [hactions]
    rfl
  case writes =>
    rw [hsnapshots, hactions]
    exact Nat.zero_le _
  case size =>
    -- the state has moved on, although the write was refused
    have hstep := transition_effect conduct recording event
    have hstate : (recording.recorder.process recording.sink conduct event).recorder.state
        = (recording.effect conduct event).state := Recorder.state_process ..
    have hbindings := hstep.registry_bindings
    have hsize := hstep.registry_size
    rw [← hstate] at hbindings hsize
    dsimp only
    omega

/-- An event is accounted for, whether or not its write is made. -/
theorem accounts_event {follower : Follower} {text : Text}
    (hevent : Event.ofLine? text = some event) (hfailure : recording.failure = none)
    (hlines : follower.linesRead = recording.follower.linesRead + 1) :
    Accounts recording ({ recording with follower }.onEvent conduct event)
      [recording.takenLine conduct text] := by
  rcases process_cases conduct recording event
    with ⟨hresult, hstored⟩ | ⟨⟨failure, hresult⟩, hstored⟩
  · exact accounts_of_stored conduct hevent hfailure hlines hresult hstored
  · exact accounts_of_refused conduct hevent hlines hresult hstored

/-- A line that is taken from the log is accounted for. -/
theorem accounts_line {follower : Follower} (text : Text) (hfailure : recording.failure = none)
    (hlines : follower.linesRead = recording.follower.linesRead + 1) :
    Accounts recording ({ recording with follower }.onLine conduct text)
      [recording.takenLine conduct text] := by
  cases hevent : Event.ofLine? text with
  | none =>
    have hline : { recording with follower }.onLine conduct text = { recording with follower } := by
      rw [onLine, hevent]
    rw [hline]
    refine ⟨hlines, ?_, ?_, ?_, ?_, fun _ => ⟨hfailure, ?_⟩, Nat.le_refl _⟩ <;>
      simp [eventsIn, snapshotsIn, actionsIn, takenLine, hevent, Correlation.actionsIn]
  | some event =>
    have hline : { recording with follower }.onLine conduct text
        = { recording with follower }.onEvent conduct event := by rw [onLine, hevent]
    rw [hline]
    exact accounts_event conduct hevent hfailure hlines

/-! ### Acts and runs -/

/-- Looking for a line, when there is one. -/
theorem advance_of_nextText?_eq_some {text : Text} (h : recording.nextText? = some text) :
    ∃ follower, follower.linesRead = recording.follower.linesRead + 1
      ∧ recording.failure = none
      ∧ (recording.advance conduct).1 = { recording with follower }.onLine conduct text := by
  have hlines := Follower.linesRead_next recording.follower recording.disk
  unfold nextText? at h
  split at h
  · cases h
  next hfailure =>
    cases hnext : recording.follower.next recording.disk false with
    | mk follower poll =>
      rw [hnext] at h hlines
      cases poll with
      | line number found =>
        obtain rfl : found = text := Option.some.inj h
        refine ⟨follower, hlines, by simpa using hfailure, ?_⟩
        simp [advance, hfailure, hnext]
      | _ => cases h

/-- Looking for a line, when there is none. -/
theorem advance_of_nextText?_eq_none (h : recording.nextText? = none) :
    ∃ follower failure, follower.linesRead = recording.follower.linesRead
      ∧ (failure = none → recording.failure = none)
      ∧ (recording.advance conduct).1 = { recording with follower, failure } := by
  have hlines := Follower.linesRead_next recording.follower recording.disk
  unfold nextText? at h
  split at h
  next hfailure =>
    refine ⟨recording.follower, recording.failure, rfl, id, ?_⟩
    rw [advance, if_pos hfailure]
  next hfailure =>
    have hnone : recording.failure = none := by simpa using hfailure
    cases hnext : recording.follower.next recording.disk false with
    | mk follower poll =>
      rw [hnext] at h hlines
      cases poll with
      | line number found => cases h
      | waiting => exact ⟨follower, none, hlines, fun _ => hnone, by simp [advance, hnone, hnext]⟩
      | ended => exact ⟨follower, none, hlines, fun _ => hnone, by simp [advance, hnone, hnext]⟩
      | failed failure =>
        exact ⟨follower, some failure, hlines, fun h => absurd h (Option.some_ne_none failure),
          by simp [advance, hnone, hnext]⟩

/-- Every act is accounted for. -/
theorem accounts_act (log : Text) (recording : Recording) (act : Act) :
    Accounts recording (recording.act conduct log act) (recording.taken? conduct act).toList := by
  cases act with
  | append bytes => exact .of_eq rfl rfl rfl rfl id rfl
  | poll =>
    change Accounts recording (recording.advance conduct).1 _
    cases htext : recording.nextText? with
    | some text =>
      obtain ⟨follower, hlines, hfailure, hadvance⟩ := advance_of_nextText?_eq_some conduct htext
      rw [hadvance, taken?, htext]
      exact accounts_line conduct text hfailure hlines
    | none =>
      obtain ⟨follower, failure, hlines, hfailure, hadvance⟩ :=
        advance_of_nextText?_eq_none conduct htext
      rw [hadvance, taken?, htext]
      exact .of_eq hlines rfl rfl rfl hfailure rfl

/-- A run is accounted for by its trace. -/
theorem accounts_run (log : Text) (recording : Recording) (acts : List Act) :
    Accounts recording (recording.run conduct log acts) (trace conduct log recording acts) := by
  induction acts generalizing recording with
  | nil => exact .of_eq rfl rfl rfl rfl id rfl
  | cons act acts ih =>
    exact (accounts_act conduct log recording act).trans (ih (recording.act conduct log act))

end Recording
end StepRecorder
