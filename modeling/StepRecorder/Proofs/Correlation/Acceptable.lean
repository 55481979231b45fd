import StepRecorder.Proofs.Correlation.Named
import StepRecorder.Proofs.Correlation.Run
import StepRecorder.Proofs.Naming.Acceptable

/-!
No oracle gets a bad name into a recording: every key, every name of an id and every name in a
recorded action is acceptable, whatever the oracle replies and whether or not writes succeed.

    oracle ─▶ choose ─▶ storedName ─▶ key ─▶ name of an id ─▶ action
              accepted,  cut below
              or counted the limit

Names are numbered by the entries, so the number of entries has to be bounded. It never decreases,
so a bound at the end is a bound all the way.

Main statement: `names_are_acceptable`.
-/

namespace StepRecorder

namespace Correlation

/-- How many entries the numbers in names are good for. -/
def entryLimit : Nat := 2 ^ 30

/-- A state with acceptable names only. -/
structure Fit (state : State) : Prop where
  named : Named state
  acceptable : ∀ name ∈ Ordered.keys state.registry.locators, Naming.isAcceptable name = true

variable {policy : TargetPolicy} {oracle : Oracle} {state next : State} {event : Event}
  {outcome : Outcome} {write : Option Write}

theorem Fit.initial (collision : CollisionPolicy) : Fit (State.initial collision) :=
  ⟨.initial collision, fun _ hname => nomatch hname⟩

theorem isAcceptable_newName (h : state.registry.size < entryLimit) (oracle : Oracle)
    (locator : Text) : Naming.isAcceptable (newName oracle state locator) = true := by
  have hcount : state.registry.size + 1 < 10 ^ 24 :=
    Nat.lt_of_le_of_lt (Nat.succ_le_of_lt h) (by decide)
  have htries : state.registry.size + 2 < 10 ^ 38 :=
    Nat.lt_trans (Nat.add_lt_add_right h 2) (by decide)
  exact (Registry.storedAs_storedName _ _ _).isAcceptable htries
    (Naming.isAcceptable_choose _ _ hcount)

/-- A step brings in acceptable names only, as long as there are not too many entries. -/
theorem Fit.step (h : Fit state) (hsize : state.registry.size < entryLimit)
    (hstep : Transition policy oracle state event next outcome write) : Fit next := by
  refine ⟨h.named.step hstep, ?_⟩
  cases hstep with
  | bound id locator pending new =>
    intro name hname
    rcases (Ordered.mem_keys_put _ _ _ name).mp hname with rfl | hold
    · exact isAcceptable_newName hsize oracle locator
    · exact h.acceptable name hold
  | entered text id name target known =>
    rw [registry_afterText]
    exact h.acceptable
  | enterUnknown text id target unknown =>
    rw [registry_afterText]
    exact h.acceptable
  | _ => exact h.acceptable

/-- The number of entries never decreases. -/
theorem Transition.size_le (hstep : Transition policy oracle state event next outcome write) :
    state.registry.size ≤ next.registry.size := by
  cases hstep with
  | bound id locator pending new => exact Ordered.length_le_put _ _ _
  | entered text id name target known => exact Nat.le_of_eq (by rw [registry_afterText])
  | enterUnknown text id target unknown => exact Nat.le_of_eq (by rw [registry_afterText])
  | _ => exact Nat.le_refl _

/-- An action is recorded for a name that has an entry. -/
theorem Named.target_mem (h : Named state)
    (hstep : Transition policy oracle state event next outcome write) :
    ∀ action ∈ outcome.actions, action.target ∈ Ordered.keys state.registry.locators := by
  cases hstep with
  | tapped id name known =>
    intro action haction
    obtain rfl := List.mem_singleton.mp haction
    exact h.known id name known
  | entered text id name target known =>
    intro action haction
    obtain rfl := List.mem_singleton.mp haction
    exact h.known id name known
  | _ => exact fun _ haction => nomatch haction

end Correlation

namespace Recorder

open Correlation

variable {σ : Type} {sink : Sink σ} (conduct : Conduct)

theorem size_le_processAll (recorder : Recorder σ) (events : List Event) :
    recorder.state.registry.size
      ≤ (recorder.processAll sink conduct events).1.state.registry.size := by
  induction events generalizing recorder with
  | nil => exact Nat.le_refl _
  | cons event events ih =>
    have hstep := transition_step conduct.target conduct.oracle recorder.state event
    have hrest := ih (recorder.process sink conduct event).recorder
    rw [state_process] at hrest
    exact Nat.le_trans hstep.size_le hrest

/-- A run from a fit state ends in one, and records actions for acceptable names. -/
theorem fit_processAll {recorder : Recorder σ} (h : Fit recorder.state) (events : List Event)
    (hsize : (recorder.processAll sink conduct events).1.state.registry.size < entryLimit) :
    Fit (recorder.processAll sink conduct events).1.state
      ∧ ∀ action, .ok (.recorded action) ∈ (recorder.processAll sink conduct events).2 →
          Naming.isAcceptable action.target = true := by
  induction events generalizing recorder with
  | nil => exact ⟨h, fun _ haction => nomatch haction⟩
  | cons event events ih =>
    have hstep := transition_step conduct.target conduct.oracle recorder.state event
    have hlimit : recorder.state.registry.size < entryLimit :=
      Nat.lt_of_le_of_lt (size_le_processAll conduct recorder (event :: events)) hsize
    have hnext : Fit (recorder.process sink conduct event).recorder.state := by
      rw [state_process]
      exact h.step hlimit hstep
    obtain ⟨hlast, hactions⟩ := ih hnext hsize
    refine ⟨hlast, ?_⟩
    intro action haction
    rcases List.mem_cons.mp haction with hfirst | hlater
    · have hkeys := h.named.target_mem hstep
      rw [outcome_of_process_eq_ok conduct hfirst.symm] at hkeys
      exact h.acceptable _ (hkeys action (List.mem_singleton.mpr rfl))
    · exact hactions action hlater

/-- All names in a recording are acceptable, whatever the oracle replies, whichever names collide
and whichever writes fail. -/
theorem names_are_acceptable (sink : Sink σ) (conduct : Conduct) (collision : CollisionPolicy)
    (store : σ) (events : List Event)
    (h : (processAll sink conduct ⟨.initial collision, store⟩ events).1.state.registry.size
      < entryLimit) :
    let done := processAll sink conduct ⟨.initial collision, store⟩ events
    (∀ name ∈ Ordered.keys done.1.state.registry.locators, Naming.isAcceptable name = true)
      ∧ (∀ id name, done.1.state.registry.nameOf? id = some name →
          Naming.isAcceptable name = true)
      ∧ ∀ action, .ok (.recorded action) ∈ done.2 →
          Naming.isAcceptable action.target = true := by
  intro done
  obtain ⟨⟨hnamed, hacceptable⟩, hactions⟩ := fit_processAll conduct (.initial collision) events h
  refine ⟨hacceptable, ?_, hactions⟩
  intro id name hname
  exact hacceptable name (hnamed.known id name hname)

/-- A reply of 39 characters between blanks is just short enough. Given again for another locator,
it is cut, so that the suffix does not make it too long. -/
theorem names_of_padded_reply :
    let conduct : Conduct := ⟨.oneShot, fun _ _ => .ok (' ' :: List.replicate 39 'x' ++ [' '])⟩
    let events : List Event := [⟨.locator, "//a".toList⟩, ⟨.element, ['1']⟩,
      ⟨.locator, "//b".toList⟩, ⟨.element, ['2']⟩, ⟨.click, ['2']⟩]
    let done := processAll (Memory.sink {}) conduct ⟨.initial .suffix, {}⟩ events
    done.1.state.registry.size < entryLimit
      ∧ Ordered.keys done.1.state.registry.locators
          = [List.replicate 39 'x', List.replicate 37 'x' ++ ['_', '2']]
      ∧ ∀ name ∈ Ordered.keys done.1.state.registry.locators, Naming.isAcceptable name = true := by
  intro conduct events done
  have hsize : done.1.state.registry.size < entryLimit := by decide +kernel
  have hkeys : Ordered.keys done.1.state.registry.locators
      = [List.replicate 39 'x', List.replicate 37 'x' ++ ['_', '2']] := by decide +kernel
  refine ⟨hsize, hkeys, ?_⟩
  exact (names_are_acceptable (Memory.sink {}) conduct .suffix {} events hsize).1

end Recorder
end StepRecorder
