import StepRecorder.Proofs.Correlation.Step
import StepRecorder.Sink.Memory

/-!
Runs of the correlation over many events, with and without a sink. While a sink never fails, the
outcomes and the states are those of the steps alone, and the sink is given their writes in order.

Main statement: `processAll_of_neverFails`.
-/

namespace StepRecorder

namespace Correlation

/-- The steps of some events, one after the other. -/
def effects (policy : TargetPolicy) (oracle : Oracle) : State → List Event → List Effect
  | _, [] => []
  | state, event :: events =>
    let effect := step policy oracle state event
    effect :: effects policy oracle effect.state events

/-- The state after some events. -/
def after (policy : TargetPolicy) (oracle : Oracle) (state : State) (events : List Event) : State :=
  events.foldl (fun state event => (step policy oracle state event).state) state

variable (policy : TargetPolicy) (oracle : Oracle) (state : State)

@[simp] theorem length_effects (events : List Event) :
    (effects policy oracle state events).length = events.length := by
  induction events generalizing state with
  | nil => rfl
  | cons event events ih => simp [effects, ih]

end Correlation

/-- Whether every write to a sink succeeds. -/
def Sink.NeverFails {σ : Type} (sink : Sink σ) : Prop :=
  ∀ store write, (sink.perform store write).result = .ok ()

/-- A sink in memory without planned failures never fails. -/
theorem Memory.neverFails : (Memory.sink {}).NeverFails := by
  intro store write
  cases write <;> rfl

namespace Recorder

variable {σ : Type}

/-- A recorder after some events, and what each of them came to. -/
def processAll (sink : Sink σ) (conduct : Conduct) :
    Recorder σ → List Event → Recorder σ × List (Except Failure Correlation.Outcome)
  | recorder, [] => (recorder, [])
  | recorder, event :: events =>
    let done := recorder.process sink conduct event
    let (last, results) := processAll sink conduct done.recorder events
    (last, done.result :: results)

/-- Gives some writes to a sink, one after the other. -/
def deliver (sink : Sink σ) (store : σ) (writes : List Correlation.Write) : σ :=
  writes.foldl (fun store write => (sink.perform store write).store) store

variable {sink : Sink σ} (conduct : Conduct)

/-- An event that needs no write. -/
theorem process_of_write_none (sink : Sink σ) {recorder : Recorder σ} {event : Event}
    (h : (Correlation.step conduct.target conduct.oracle recorder.state event).write = none) :
    let effect := Correlation.step conduct.target conduct.oracle recorder.state event
    let done := recorder.process sink conduct event
    done.recorder = ⟨effect.state, recorder.store⟩ ∧ done.result = .ok effect.outcome := by
  simp [process, h]

/-- An event whose outcome depends on a write. -/
theorem process_of_write_some (sink : Sink σ) {recorder : Recorder σ} {event : Event}
    {write : Correlation.Write}
    (h : (Correlation.step conduct.target conduct.oracle recorder.state event).write = some write) :
    let effect := Correlation.step conduct.target conduct.oracle recorder.state event
    let delivery := sink.perform recorder.store write
    let done := recorder.process sink conduct event
    done.recorder = ⟨effect.state, delivery.store⟩
      ∧ done.result = delivery.result.map fun _ => effect.outcome := by
  simp only [process, h]
  cases (sink.perform recorder.store write).result <;> exact ⟨rfl, rfl⟩

/-- The state moves on as the step says, whatever becomes of the write. -/
theorem state_process (sink : Sink σ) (recorder : Recorder σ) (event : Event) :
    (recorder.process sink conduct event).recorder.state
      = (Correlation.step conduct.target conduct.oracle recorder.state event).state := by
  cases hwrite : (Correlation.step conduct.target conduct.oracle recorder.state event).write with
  | none => rw [(process_of_write_none conduct sink hwrite).1]
  | some write => rw [(process_of_write_some conduct sink hwrite).1]

/-- An event that succeeds comes to the outcome of its step. -/
theorem outcome_of_process_eq_ok {recorder : Recorder σ} {event : Event}
    {outcome : Correlation.Outcome}
    (h : (recorder.process sink conduct event).result = .ok outcome) :
    (Correlation.step conduct.target conduct.oracle recorder.state event).outcome = outcome := by
  cases hwrite : (Correlation.step conduct.target conduct.oracle recorder.state event).write with
  | none =>
    rw [(process_of_write_none conduct sink hwrite).2] at h
    exact Except.ok.inj h
  | some write =>
    rw [(process_of_write_some conduct sink hwrite).2] at h
    cases hresult : (sink.perform recorder.store write).result with
    | ok done =>
      rw [hresult] at h
      exact Except.ok.inj h
    | error failure =>
      rw [hresult] at h
      cases h

theorem process_of_neverFails (h : sink.NeverFails) (recorder : Recorder σ) (event : Event) :
    let effect := Correlation.step conduct.target conduct.oracle recorder.state event
    let done := recorder.process sink conduct event
    done.recorder = ⟨effect.state, deliver sink recorder.store effect.write.toList⟩
      ∧ done.result = .ok effect.outcome := by
  intro effect done
  cases hwrite : effect.write with
  | none => exact process_of_write_none conduct sink hwrite
  | some write =>
    obtain ⟨hrecorder, hresult⟩ := process_of_write_some conduct sink hwrite
    rw [h] at hresult
    exact ⟨hrecorder, hresult⟩

/-- With a sink that never fails, a run is the run of the steps alone, and the sink is given the
writes of the steps. -/
theorem processAll_of_neverFails (h : sink.NeverFails) (recorder : Recorder σ)
    (events : List Event) :
    let effects := Correlation.effects conduct.target conduct.oracle recorder.state events
    recorder.processAll sink conduct events
      = (⟨Correlation.after conduct.target conduct.oracle recorder.state events,
          deliver sink recorder.store (effects.filterMap (·.write))⟩,
        effects.map fun effect => .ok effect.outcome) := by
  induction events generalizing recorder with
  | nil => rfl
  | cons event events ih =>
    obtain ⟨hrecorder, hresult⟩ := process_of_neverFails conduct h recorder event
    simp only [processAll, Correlation.effects, Correlation.after, List.foldl_cons, ih, hrecorder,
      hresult, List.map_cons, List.filterMap_cons, Prod.mk.injEq, Recorder.mk.injEq, true_and,
      and_true]
    cases (Correlation.step conduct.target conduct.oracle recorder.state event).write <;> rfl

end Recorder

end StepRecorder
