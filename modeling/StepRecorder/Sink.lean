import StepRecorder.Correlation
import StepRecorder.Failure

/-!
Sinks: where a recording is written to. A sink performs one write at a time on its store and may
fail, and it is flushed at the end. `process` takes one event through a step and its write; the
state moves on whether or not the write succeeds.
-/

namespace StepRecorder

/-- What a sink answers: its store afterwards, whether it failed, and what there is to tell. -/
structure Delivery (σ : Type) where
  store : σ
  result : Except Failure Unit
  notices : List Notice := []

/-- A destination of writes, with a store of its own. -/
structure Sink (σ : Type) where
  perform : σ → Correlation.Write → Delivery σ
  flush : σ → Delivery σ

/-- The policies of a recording, and its oracle. -/
structure Conduct where
  target : TargetPolicy
  oracle : Oracle

/-- A correlation with the store that it writes to. -/
structure Recorder (σ : Type) where
  state : Correlation.State
  store : σ

/-- What processing an event comes to. -/
structure Processed (σ : Type) where
  recorder : Recorder σ
  result : Except Failure Correlation.Outcome
  notices : List Notice

namespace Recorder

variable {σ : Type}

/-- Takes one event through its step and the write of the step. -/
def process (sink : Sink σ) (conduct : Conduct) (recorder : Recorder σ) (event : Event) :
    Processed σ :=
  let effect := Correlation.step conduct.target conduct.oracle recorder.state event
  match effect.write with
  | none => ⟨⟨effect.state, recorder.store⟩, .ok effect.outcome, effect.before ++ effect.after⟩
  | some write =>
    let delivery := sink.perform recorder.store write
    let recorder := ⟨effect.state, delivery.store⟩
    match delivery.result with
    | .ok () => ⟨recorder, .ok effect.outcome, effect.before ++ delivery.notices ++ effect.after⟩
    | .error failure => ⟨recorder, .error failure, effect.before ++ delivery.notices⟩

end Recorder
end StepRecorder
