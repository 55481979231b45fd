import StepRecorder.Proofs.Correlation.Acceptable
import StepRecorder.Proofs.Correlation.Questions

/-!
Names that are made by counting are new. The number of such a name is the number of entries and one
more, and no name with a number has a number beyond the number of entries:

    asked for           entries afterwards
    DynamicElement      DynamicElement
    DynamicElement      DynamicElement  DynamicElement_2                      made by a suffix
    counting            DynamicElement  DynamicElement_2  DynamicElement_3    made by counting

A suffix makes names of the same shape, but it has to pass over `DynamicElement` and all smaller
numbers, each of which is an entry. So the invariant `NumbersWithin` only fails if somebody asks for
a name with a number, which is what the main statement excludes.

Main statements: `NumbersWithin.enter`, `counted_names_are_new`.
-/

namespace StepRecorder

namespace Naming

/-- What stands in front of the number in a name that is made by counting. -/
def dynamic : Text := "DynamicElement".toList

theorem length_dynamic : dynamic.length = 14 := by decide +kernel

theorem numbered_eq (n : Nat) : numbered n = dynamic ++ '_' :: Text.decimal n := by
  have hlead : "DynamicElement_".toList = dynamic ++ ['_'] := by decide +kernel
  -- spelled out, as a search for rewrites would try to evaluate the digits
  calc numbered n
      = "DynamicElement_".toList ++ Text.decimal n := rfl
    _ = (dynamic ++ ['_']) ++ Text.decimal n := congrArg (· ++ Text.decimal n) hlead
    _ = dynamic ++ '_' :: Text.decimal n := List.append_assoc _ _ _

theorem numbered_injective : Function.Injective numbered := by
  intro m n h
  have hdigits : Text.decimal m = Text.decimal n := List.append_cancel_left h
  exact Text.decimal_injective hdigits

/-- A name that is made by counting has the next number. -/
theorem name_of_synthesized {answer : OracleAnswer} {locator : Text} {count : Nat}
    (h : (choose answer locator count).1.source = .synthesized) :
    (choose answer locator count).1.name = numbered (count + 1) := by
  rcases choose_cases answer locator count with ⟨-, hother⟩ | hcounted
  · exact absurd h hother
  · rw [hcounted]

end Naming

namespace Registry

variable {registry : Registry} {name expression stored base : Text}

/-! ### Candidates that are names with a number -/

/-- A beginning of 14 characters is not cut, unless the number is far too long. -/
theorem candidate_eq {n : Nat} (hbase : base.length = 14) (hn : n < 10 ^ 24) :
    candidate base n = base ++ '_' :: Text.decimal n := by
  have hdigits := Text.length_decimal_le 24 (by decide) hn
  simp only [candidate, Naming.nameLimit, List.length_cons]
  rw [List.take_of_length_le (by omega)]

/-- A candidate is a name with a number only for the one base. -/
theorem base_of_candidate_eq_numbered {n k : Nat} (hn : n < 10 ^ 23)
    (h : candidate base n = Naming.numbered k) : base = Naming.dynamic ∧ n = k := by
  have hdigits := Text.length_decimal_le 23 (by decide) hn
  have hlength := Naming.length_dynamic
  rw [Naming.numbered_eq] at h
  have hnumber : Text.decimal n = Text.decimal k :=
    Text.eq_of_append_cons_eq Nat.underscore_not_in_toDigits Nat.underscore_not_in_toDigits h
  obtain rfl := Text.decimal_injective hnumber
  have hcut := List.append_cancel_right h
  have hcutLength := congrArg List.length hcut
  simp only [Naming.nameLimit, List.length_take, List.length_cons] at hcutLength
  rw [List.take_of_length_le (by simp only [Naming.nameLimit, List.length_cons]; omega)] at hcut
  exact ⟨hcut, rfl⟩

/-! ### The numbers in use -/

/-- A registry whose names with a number have numbers up to the number of entries. -/
def NumbersWithin (registry : Registry) : Prop :=
  ∀ k, Naming.numbered k ∈ Ordered.keys registry.locators → k ≤ registry.size

theorem NumbersWithin.numbered_not_mem (h : NumbersWithin registry) :
    Naming.numbered (registry.size + 1) ∉ Ordered.keys registry.locators := by
  intro hmem
  have hle := h _ hmem
  omega

/-- A name with a number under which a locator is stored has at most the next number, unless another
one was asked for. -/
theorem NumbersWithin.le_of_storedAs (h : NumbersWithin registry)
    (hsize : registry.size < Correlation.entryLimit)
    (hname : ∀ k, name = Naming.numbered k → k = registry.size + 1)
    (hstored : StoredAs registry name expression stored) {k : Nat}
    (hk : stored = Naming.numbered k) : k ≤ registry.size + 1 := by
  cases hstored with
  | asked usable => exact Nat.le_of_eq (hname k hk)
  | numbered n policy taken low high usable passed =>
    have hlimit : registry.size + 2 < 10 ^ 23 :=
      Nat.lt_trans (Nat.add_lt_add_right hsize 2) (by decide)
    obtain ⟨rfl, rfl⟩ := base_of_candidate_eq_numbered (Nat.lt_of_le_of_lt high hlimit) hk
    rcases Nat.eq_or_lt_of_le low with rfl | hlater
    · -- the base is an entry
      have hentries := List.length_pos_of_mem (mem_keys_of_not_isUsable taken)
      rw [Ordered.keys, List.length_map] at hentries
      exact Nat.succ_le_succ hentries
    · -- the number before is the number of an entry
      have hbefore := mem_keys_of_not_isUsable (passed (n - 1) (by omega) (by omega))
      rw [candidate_eq Naming.length_dynamic (by omega), ← Naming.numbered_eq] at hbefore
      have hle := h (n - 1) hbefore
      omega

/-- An entry keeps the numbers within the number of entries, unless its name is asked for with
another number than the next one. -/
theorem NumbersWithin.enter (h : NumbersWithin registry)
    (hsize : registry.size < Correlation.entryLimit)
    (hname : ∀ k, name = Naming.numbered k → k = registry.size + 1) {locator : Text}
    (hstored : StoredAs registry name (expressionOf locator) stored) (id : Text) :
    NumbersWithin (registry.enter id stored locator) := by
  intro k hk
  change k ≤ (Ordered.put stored (expressionOf locator) registry.locators).length
  by_cases hold : Naming.numbered k ∈ Ordered.keys registry.locators
  · exact Nat.le_trans (h k hold) (Ordered.length_le_put _ _ _)
  · rcases (Ordered.mem_keys_put _ _ _ _).mp hk with rfl | hkey
    · rw [Ordered.put_of_not_mem hold, List.length_append]
      exact h.le_of_storedAs hsize hname hstored rfl
    · exact absurd hkey hold

/-- A locator for which an unused name is asked is stored under this name. -/
theorem StoredAs.eq_of_not_mem (h : StoredAs registry name expression stored)
    (hname : name ∉ Ordered.keys registry.locators) : stored = name := by
  cases h with
  | asked usable => rfl
  | numbered n policy taken low high usable passed =>
    exact absurd (mem_keys_of_not_isUsable taken) hname

end Registry

namespace Correlation

variable {oracle : Oracle} {state : State} {event : Event} {choice : Naming.Choice}

/-- The name that is chosen at an event, if it leads to a request. -/
def choice? (oracle : Oracle) (state : State) (event : Event) : Option Naming.Choice :=
  (request? oracle state event).map fun request =>
    (Naming.choose (oracle state.asked request.locator) request.locator state.registry.size).1

/-- The name that is chosen is the one that the registry is asked for. -/
theorem choice?_eq_some (h : choice? oracle state event = some choice) :
    ∃ request, request? oracle state event = some request ∧ request.name = choice.name
      ∧ (choice.source = .synthesized →
          choice.name = Naming.numbered (state.registry.size + 1)) := by
  obtain ⟨request, hrequest, rfl⟩ := Option.map_eq_some_iff.mp h
  obtain ⟨-, -, -, hname⟩ := request?_eq_some hrequest
  exact ⟨request, hrequest, hname, Naming.name_of_synthesized⟩

/-- A choice that is no name with a number, unless it is made by counting. -/
def TakesNoNumber (choice : Naming.Choice) : Prop :=
  choice.source ≠ .synthesized → ∀ k, choice.name ≠ Naming.numbered k

/-- A step keeps the numbers within the number of entries. -/
theorem numbersWithin_step (policy : TargetPolicy) (h : state.registry.NumbersWithin)
    (hsize : state.registry.size < entryLimit)
    (hchoice : ∀ choice, choice? oracle state event = some choice → TakesNoNumber choice) :
    (step policy oracle state event).state.registry.NumbersWithin := by
  cases hrequest : request? oracle state event with
  | none =>
    rw [(step_of_request?_eq_none policy hrequest).2]
    exact h
  | some request =>
    obtain ⟨-, -, hnew, hname⟩ := request?_eq_some hrequest
    rw [(step_of_request? policy hrequest).2.1, Registry.take_new hnew]
    refine h.enter hsize ?_ (Registry.storedAs_storedName _ _ _) request.id
    intro k hk
    have hchosen := hchoice _ (congrArg (Option.map _) hrequest)
    rw [hname] at hk
    by_cases hsource : (Naming.choose (oracle state.asked request.locator) request.locator
        state.registry.size).1.source = .synthesized
    · rw [Naming.name_of_synthesized hsource] at hk
      exact (Naming.numbered_injective hk).symm
    · exact absurd hk (hchosen hsource k)

end Correlation

namespace Recorder

open Correlation

variable {σ : Type} {sink : Sink σ} {conduct : Conduct} {recorder : Recorder σ}

/-- The name that is chosen at an event. -/
def choiceIn? (oracle : Oracle) (event : Event) (passage : Passage σ) : Option Naming.Choice :=
  choice? oracle passage.1.state event

/-- An event that binds its element under a name that is new, and changes no other entry. -/
structure EntersNew (oracle : Oracle) (event : Event) (name : Text) (passage : Passage σ) :
    Prop where
  unused : name ∉ Ordered.keys passage.1.state.registry.locators
  /-- The registry stores the pending locator under this very name, behind all other entries. -/
  stored : ∃ locator, passage.1.state.pending = some locator
    ∧ answerIn? oracle event passage = some (.bound ⟨event.payload, name, locator⟩)
    ∧ passage.2.recorder.state.registry.locators
      = passage.1.state.registry.locators ++ [(name, Registry.expressionOf locator)]
  named : passage.2.recorder.state.registry.nameOf? event.payload = some name
  grown : passage.2.recorder.state.registry.size = passage.1.state.registry.size + 1

/-- While all numbers are within the number of entries, a name that is made by counting is new. -/
theorem entersNew_process (sink : Sink σ) {event : Event} {choice : Naming.Choice}
    (h : recorder.state.registry.NumbersWithin)
    (hchoice : choice? conduct.oracle recorder.state event = some choice)
    (hsource : choice.source = .synthesized) :
    EntersNew conduct.oracle event choice.name (recorder, recorder.process sink conduct event) := by
  obtain ⟨request, hrequest, hname, hcounted⟩ := choice?_eq_some hchoice
  obtain ⟨rfl, hpending, hnew, -⟩ := request?_eq_some hrequest
  have hunused : choice.name ∉ Ordered.keys recorder.state.registry.locators := by
    rw [hcounted hsource]
    exact h.numbered_not_mem
  have hstored : recorder.state.registry.storedName request.name request.locator = choice.name := by
    rw [hname]
    exact (Registry.storedAs_storedName _ _ _).eq_of_not_mem hunused
  have hregistry : (recorder.process sink conduct ⟨.element, request.id⟩).recorder.state.registry
      = recorder.state.registry.enter request.id choice.name request.locator := by
    rw [state_process, (step_of_request? conduct.target hrequest).2.1, Registry.take_new hnew,
      hstored]
  have hentries : (recorder.state.registry.enter request.id choice.name request.locator).locators
      = recorder.state.registry.locators
        ++ [(choice.name, Registry.expressionOf request.locator)] :=
    Ordered.put_of_not_mem hunused _
  refine ⟨hunused, ⟨request.locator, hpending, ?granted, ?entries⟩, ?named, ?grown⟩
  case granted => rw [answerIn?, hrequest, Option.map_some, Registry.answer_new hnew, hstored]
  case entries => rw [hregistry, hentries]
  case named => rw [hregistry, Registry.nameOf?_enter, if_pos rfl]
  case grown => rw [hregistry, Registry.size, hentries, List.length_append]; rfl

/-- All through a run the numbers stay within the number of entries. -/
theorem numbersWithin_trail (h : recorder.state.registry.NumbersWithin) (events : List Event)
    (hsize : (recorder.processAll sink conduct events).1.state.registry.size < entryLimit)
    (hchoices : ∀ event passage,
      (event, passage) ∈ events.zip (trail sink conduct recorder events) →
      ∀ choice, choiceIn? conduct.oracle event passage = some choice → TakesNoNumber choice) :
    ∀ event passage, (event, passage) ∈ events.zip (trail sink conduct recorder events) →
      passage.1.state.registry.NumbersWithin := by
  induction events generalizing recorder with
  | nil => exact fun _ _ hmem => nomatch hmem
  | cons first events ih =>
    have hlimit : recorder.state.registry.size < entryLimit :=
      Nat.lt_of_le_of_lt (size_le_processAll conduct recorder (first :: events)) hsize
    have hnext : (recorder.process sink conduct first).recorder.state.registry.NumbersWithin := by
      rw [state_process]
      exact numbersWithin_step conduct.target h hlimit (hchoices _ _ List.mem_cons_self)
    intro event passage hmem
    rcases List.mem_cons.mp hmem with heq | hrest
    · cases heq
      exact h
    · exact ih hnext hsize (fun event passage hmem => hchoices event passage
        (List.mem_cons_of_mem _ hmem)) event passage hrest

/-- A name that is made by counting is always new, under either policy for collisions and whichever
writes fail, as long as nobody else chooses a name with a number: it is stored as it is, in an entry
of its own, and no other entry changes. -/
theorem counted_names_are_new (sink : Sink σ) (conduct : Conduct) (collision : CollisionPolicy)
    (store : σ) (events : List Event)
    (hsize : (processAll sink conduct ⟨.initial collision, store⟩ events).1.state.registry.size
      < entryLimit)
    (hchoices : ∀ event passage,
      (event, passage) ∈ events.zip (trail sink conduct ⟨.initial collision, store⟩ events) →
      ∀ choice, choiceIn? conduct.oracle event passage = some choice →
        choice.source ≠ .synthesized → ∀ k, choice.name ≠ Naming.numbered k) :
    ∀ event passage,
      (event, passage) ∈ events.zip (trail sink conduct ⟨.initial collision, store⟩ events) →
      ∀ choice, choiceIn? conduct.oracle event passage = some choice →
        choice.source = .synthesized → EntersNew conduct.oracle event choice.name passage := by
  intro event passage hmem choice hchoice hsource
  have hstart : (State.initial collision).registry.NumbersWithin := fun _ hkey => nomatch hkey
  have hwithin := numbersWithin_trail hstart events hsize hchoices event passage hmem
  rw [eq_process_of_mem_trail hmem]
  exact entersNew_process sink hwithin hchoice hsource

/-- The oracle calls three locators the same, two of which get one entry together. Then it is asked
in vain, and the number that is counted up to is one more than the one that was made by a suffix. -/
theorem counted_name_behind_suffix :
    let conduct : Conduct := ⟨.oneShot, fun asked _ =>
      if asked.length < 3 then .ok Naming.dynamic else .error .timeout⟩
    let events : List Event := [⟨.locator, "//a".toList⟩, ⟨.element, ['1']⟩,
      ⟨.locator, "//b".toList⟩, ⟨.element, ['2']⟩, ⟨.locator, "//b".toList⟩, ⟨.element, ['3']⟩,
      ⟨.locator, "//c".toList⟩, ⟨.element, ['4']⟩]
    let run := trail (Memory.sink {}) conduct ⟨.initial .suffix, {}⟩ events
    let last := (processAll (Memory.sink {}) conduct ⟨.initial .suffix, {}⟩ events).1.state
    last.registry.size < entryLimit
      ∧ (∀ event passage, (event, passage) ∈ events.zip run →
          ∀ choice, choiceIn? conduct.oracle event passage = some choice →
            choice.source ≠ .synthesized → ∀ k, choice.name ≠ Naming.numbered k)
      ∧ Ordered.keys last.registry.locators
          = [Naming.dynamic, Naming.dynamic ++ ['_', '2'], Naming.dynamic ++ ['_', '3']]
      ∧ ∃ event passage, (event, passage) ∈ events.zip run
          ∧ choiceIn? conduct.oracle event passage
            = some ⟨Naming.dynamic ++ ['_', '3'], .synthesized⟩
          ∧ EntersNew conduct.oracle event (Naming.dynamic ++ ['_', '3']) passage := by
  intro conduct events run last
  have hsize : last.registry.size < entryLimit := by decide +kernel
  have hchosen : ∀ told ∈ events.zip run, ∀ choice ∈ choiceIn? conduct.oracle told.1 told.2,
      choice.source = .synthesized ∨ choice.name = Naming.dynamic := by decide +kernel
  have hchoices : ∀ event passage, (event, passage) ∈ events.zip run →
      ∀ choice, choiceIn? conduct.oracle event passage = some choice →
        choice.source ≠ .synthesized → ∀ k, choice.name ≠ Naming.numbered k := by
    intro event passage hmem choice hchoice hsource k hname
    rcases hchosen (event, passage) hmem choice hchoice with hcounted | hplain
    · exact hsource hcounted
    · have hlength := congrArg List.length (hplain.symm.trans (hname.trans (Naming.numbered_eq k)))
      simp at hlength
  have hlast : ∃ told ∈ events.zip run, choiceIn? conduct.oracle told.1 told.2
      = some ⟨Naming.dynamic ++ ['_', '3'], .synthesized⟩ := by decide +kernel
  obtain ⟨⟨event, passage⟩, hmem, hchoice⟩ := hlast
  refine ⟨hsize, hchoices, by decide +kernel, event, passage, hmem, hchoice, ?_⟩
  exact counted_names_are_new (Memory.sink {}) conduct .suffix {} events hsize hchoices event
    passage hmem _ hchoice rfl

end Recorder
end StepRecorder
