import StepRecorder.Proofs.Correlation.History

/-!
Writes that fail. A sink stores a write as a whole, or fails and stores nothing; which calls fail is
up to the sink. The state moves on either way, so a run with failures goes along with a run without
them, event by event:

    with failures   s0 ── ok ──▶ s1 ── error ──▶ s2 ── ok ──▶ s3
    without         s0 ── ok ──▶ s1 ──  ok   ──▶ s2 ── ok ──▶ s3

Only what is stored is not the same. The next registry that is stored makes up for those that were
not; the lines of an action that was not stored are missing for good.

Main statement: `failures_leave_state`.
-/

namespace StepRecorder

open Correlation
open Correlation.History (linesIn linesOf)

/-- The registries that a write asks to store. -/
def Correlation.snapshotsIn : Write → List (List (Text × Text))
  | .registry entries => [entries]
  | .action _ => []

/-- A sink that stores a write as a whole or fails and stores nothing. What it has stored is told by
the snapshots of the registry and the lines of the script, in order. -/
structure Sink.StoresOrFails {σ : Type} (sink : Sink σ)
    (snapshots : σ → List (List (Text × Text))) (lines : σ → List Text) : Prop where
  stored (store : σ) (write : Write) : (sink.perform store write).result = .ok () →
    snapshots (sink.perform store write).store = snapshots store ++ snapshotsIn write
      ∧ lines (sink.perform store write).store = lines store ++ linesIn write
  failed (store : σ) (write : Write) (failure : Failure) :
    (sink.perform store write).result = .error failure →
    snapshots (sink.perform store write).store = snapshots store
      ∧ lines (sink.perform store write).store = lines store

/-- The sink in memory stores a write or fails, whichever calls are planned to fail. -/
theorem Memory.storesOrFails (plan : Memory.Plan) :
    (Memory.sink plan).StoresOrFails (·.snapshots) (·.lines) := by
  constructor
  · intro store write h
    cases write with
    | registry entries =>
      simp only [Memory.sink, Memory.perform] at h ⊢
      split at h <;> simp_all [snapshotsIn, linesIn]
    | action action =>
      simp only [Memory.sink, Memory.perform] at h ⊢
      split at h <;> simp_all [snapshotsIn, linesIn]
  · intro store write failure h
    cases write with
    | registry entries =>
      simp only [Memory.sink, Memory.perform] at h ⊢
      split at h <;> simp_all
    | action action =>
      simp only [Memory.sink, Memory.perform] at h ⊢
      split at h <;> simp_all

namespace Recorder

variable {σ τ : Type} {sink : Sink σ} {free : Sink τ} (conduct : Conduct)
  {snapshots : σ → List (List (Text × Text))} {lines : σ → List Text}

/-- The processing of some events, one after the other, each with the recorder before it. -/
def trail (sink : Sink σ) (conduct : Conduct) :
    Recorder σ → List Event → List (Recorder σ × Processed σ)
  | _, [] => []
  | recorder, event :: events =>
    let done := recorder.process sink conduct event
    (recorder, done) :: trail sink conduct done.recorder events

/-- The processing of an event with failures beside the processing without them. -/
structure Follows (sink : Sink σ) (snapshots : σ → List (List (Text × Text)))
    (passage : Recorder σ × Processed σ) (free : Recorder τ × Processed τ) : Prop where
  /-- Registry, slots and questions to the oracle are the same. -/
  state : passage.2.recorder.state = free.2.recorder.state
  /-- The outcome is the same, unless the write failed; then the failure is that of the sink. -/
  result : passage.2.result = free.2.result
    ∨ ∃ write failure, (sink.perform passage.1.store write).result = .error failure
      ∧ passage.2.result = .error failure
  /-- A binding that succeeds is stored with all entries, also those of writes that failed. -/
  snapshot (binding : Binding) : passage.2.result = .ok (.bound binding) →
    (snapshots passage.2.recorder.store).getLast?
      = some passage.2.recorder.state.registry.locators

/-- The lines that an event adds to a script: those of its action in the run without failures, if
its write did not fail. -/
def keptLines (passage : (Recorder σ × Processed σ) × (Recorder τ × Processed τ)) : List Text :=
  match passage.1.2.result, passage.2.2.result with
  | .ok _, .ok outcome => linesOf outcome
  | _, _ => []

theorem linesIn_of_transition {policy : TargetPolicy} {oracle : Oracle} {state next : State}
    {event : Event} {outcome : Outcome} {write : Option Write}
    (hstep : Transition policy oracle state event next outcome write) :
    write.toList.flatMap linesIn = linesOf outcome := by
  cases hstep <;> simp [linesIn, linesOf]

/-- What is written for a binding is the registry that holds it. -/
theorem write_of_bound {policy : TargetPolicy} {oracle : Oracle} {state next : State}
    {event : Event} {binding : Binding} {write : Option Write}
    (hstep : Transition policy oracle state event next (.bound binding) write) :
    write = some (.registry next.registry.locators) := by
  cases hstep
  rfl

/-- What processing an event does to the state, the store and the result. -/
theorem process_cases (hsink : sink.StoresOrFails snapshots lines) (recorder : Recorder σ)
    (event : Event) :
    let effect := Correlation.step conduct.target conduct.oracle recorder.state event
    let done := recorder.process sink conduct event
    (done.result = .ok effect.outcome
        ∧ snapshots done.recorder.store
            = snapshots recorder.store ++ effect.write.toList.flatMap snapshotsIn
        ∧ lines done.recorder.store = lines recorder.store ++ linesOf effect.outcome)
      ∨ ∃ write failure, (sink.perform recorder.store write).result = .error failure
        ∧ done.result = .error failure ∧ lines done.recorder.store = lines recorder.store := by
  intro effect done
  have hlines : effect.write.toList.flatMap linesIn = linesOf effect.outcome :=
    linesIn_of_transition (transition_step _ _ _ _)
  cases hwrite : effect.write with
  | none =>
    obtain ⟨hrecorder, hresult⟩ := process_of_write_none conduct sink hwrite
    rw [hwrite] at hlines
    refine Or.inl ⟨hresult, ?_, ?_⟩
    · rw [hrecorder]
      exact (List.append_nil _).symm
    · rw [hrecorder, ← hlines]
      exact (List.append_nil _).symm
  | some write =>
    obtain ⟨hrecorder, hresult⟩ := process_of_write_some conduct sink hwrite
    cases hdelivered : (sink.perform recorder.store write).result with
    | ok _ =>
      obtain ⟨hsnapshots, hstored⟩ := hsink.stored recorder.store write hdelivered
      rw [hdelivered] at hresult
      rw [hwrite] at hlines
      refine Or.inl ⟨hresult, ?_, ?_⟩
      · rw [hrecorder]
        simpa using hsnapshots
      · rw [hrecorder, ← hlines]
        simpa using hstored
    | error failure =>
      obtain ⟨-, hstored⟩ := hsink.failed recorder.store write failure hdelivered
      rw [hdelivered] at hresult
      refine Or.inr ⟨write, failure, hdelivered, hresult, ?_⟩
      rw [hrecorder]
      exact hstored

section Step

variable {recorder : Recorder σ} {freeRecorder : Recorder τ}
  (hsink : sink.StoresOrFails snapshots lines) (hfree : free.NeverFails)
  (hstate : recorder.state = freeRecorder.state) (event : Event)
include hsink hfree hstate

/-- From the same state an event goes along with itself, whether or not its write fails. -/
theorem follows_process :
    Follows sink snapshots (recorder, recorder.process sink conduct event)
      (freeRecorder, freeRecorder.process free conduct event) := by
  have hfreeResult := (process_of_neverFails conduct hfree freeRecorder event).2
  rw [← hstate] at hfreeResult
  refine ⟨?state, ?result, ?snapshot⟩
  case state =>
    change (recorder.process sink conduct event).recorder.state
      = (freeRecorder.process free conduct event).recorder.state
    rw [state_process, state_process, hstate]
  case result =>
    rcases process_cases conduct hsink recorder event
      with ⟨hresult, -, -⟩ | ⟨write, failure, hfailed, hresult, -⟩
    · exact Or.inl (hresult.trans hfreeResult.symm)
    · exact Or.inr ⟨write, failure, hfailed, hresult⟩
  case snapshot =>
    intro binding hbound
    change (recorder.process sink conduct event).result = .ok (.bound binding) at hbound
    rcases process_cases conduct hsink recorder event
      with ⟨-, hsnapshots, -⟩ | ⟨write, failure, -, hresult, -⟩
    · have hstep := transition_step conduct.target conduct.oracle recorder.state event
      simp only [outcome_of_process_eq_ok conduct hbound] at hstep
      rw [write_of_bound hstep] at hsnapshots
      change (snapshots (recorder.process sink conduct event).recorder.store).getLast? = some
        (recorder.process sink conduct event).recorder.state.registry.locators
      rw [hsnapshots, state_process]
      simp [snapshotsIn]
    · cases hbound.symm.trans hresult

/-- What an event adds to the script. -/
theorem lines_process :
    lines (recorder.process sink conduct event).recorder.store
      = lines recorder.store
        ++ keptLines ((recorder, recorder.process sink conduct event),
            (freeRecorder, freeRecorder.process free conduct event)) := by
  have hfreeResult := (process_of_neverFails conduct hfree freeRecorder event).2
  rw [← hstate] at hfreeResult
  rcases process_cases conduct hsink recorder event
    with ⟨hresult, -, hlines⟩ | ⟨write, failure, -, hresult, hlines⟩
  · simp only [keptLines, hresult, hfreeResult, hlines]
  · simp only [keptLines, hresult, hlines, List.append_nil]

end Step

/-- A run whose writes may fail beside the run of the same events without failures. -/
theorem follows_trail {recorder : Recorder σ} {freeRecorder : Recorder τ}
    (hsink : sink.StoresOrFails snapshots lines) (hfree : free.NeverFails)
    (hstate : recorder.state = freeRecorder.state) (events : List Event) :
    let run := trail sink conduct recorder events
    let freeRun := trail free conduct freeRecorder events
    List.Forall₂ (Follows sink snapshots) run freeRun
      ∧ lines (recorder.processAll sink conduct events).1.store
          = lines recorder.store ++ (run.zip freeRun).flatMap keptLines := by
  induction events generalizing recorder freeRecorder with
  | nil => exact ⟨.nil, (List.append_nil _).symm⟩
  | cons event events ih =>
    have hfollows := follows_process conduct hsink hfree hstate event
    have hlines := lines_process conduct hsink hfree hstate event
    obtain ⟨hrest, hrestLines⟩ := ih hfollows.state
    refine ⟨.cons hfollows hrest, ?_⟩
    simp only [processAll, trail, List.zip_cons_cons, List.flatMap_cons]
    rw [hrestLines, hlines, List.append_assoc]

/-- Writes that fail leave the state alone: after each event the registry, the two slots and the
questions to the oracle are those of the run in which no write fails. -/
theorem failures_leave_state (hsink : sink.StoresOrFails snapshots lines)
    (hfree : free.NeverFails) (conduct : Conduct) (collision : CollisionPolicy) (store : σ)
    (freeStore : τ) (events : List Event) :
    let run := trail sink conduct ⟨.initial collision, store⟩ events
    let freeRun := trail free conduct ⟨.initial collision, freeStore⟩ events
    List.Forall₂ (Follows sink snapshots) run freeRun
      ∧ lines (processAll sink conduct ⟨.initial collision, store⟩ events).1.store
          = lines store ++ (run.zip freeRun).flatMap keptLines :=
  follows_trail conduct hsink hfree rfl events

/-- The first registry and the first action are not stored. The second binding brings in both names,
and only the second click is in the script. -/
theorem failures_of_two_bindings :
    let plan : Memory.Plan := { registry := [1], action := [1] }
    let conduct : Conduct := ⟨.oneShot, Oracle.offline⟩
    let events : List Event := [⟨.locator, "//a[@name='Ok']".toList⟩, ⟨.element, ['1']⟩,
      ⟨.click, ['1']⟩, ⟨.locator, "//b[@name='No']".toList⟩, ⟨.element, ['2']⟩, ⟨.click, ['2']⟩]
    let run := trail (Memory.sink plan) conduct ⟨.initial .suffix, {}⟩ events
    let store := (processAll (Memory.sink plan) conduct ⟨.initial .suffix, {}⟩ events).1.store
    (Memory.sink plan).StoresOrFails (·.snapshots) (·.lines) ∧ (Memory.sink {}).NeverFails
      ∧ run.map (·.2.result.isOk) = [true, false, false, true, true, true]
      ∧ List.Forall₂ (Follows (Memory.sink plan) (·.snapshots)) run
          (trail (Memory.sink {}) conduct ⟨.initial .suffix, {}⟩ events)
      ∧ store.snapshots.map Ordered.keys = [["Ok".toList, "No".toList]]
      ∧ store.lines = (Action.tap "No".toList).lines := by
  intro plan conduct events run store
  obtain ⟨hfollows, hlines⟩ :=
    failures_leave_state (Memory.storesOrFails plan) Memory.neverFails conduct .suffix {} {} events
  refine ⟨Memory.storesOrFails plan, Memory.neverFails, by decide +kernel, hfollows,
    by decide +kernel, ?_⟩
  exact hlines.trans (by decide +kernel)

end Recorder
end StepRecorder
