import StepRecorder.Proofs.Script

/-!
Which step of a script is which. Every action takes two lines, so the lines of the action after
`i` others are known:

    line 2 i + 1      Tap on <name>          tap name
                      Type <text> in <name>  enter text name, the text escaped and trimmed
    line 2 i + 2      Wait for <n>           wait n

Main statement: `parse_undoes_recording`.
-/

namespace StepRecorder.Script

/-- After the steps of `i` actions come those of the next one. -/
theorem drop_placed {actions : List Action} {i : Nat} {action : Action}
    (h : actions[i]? = some action) (line : Nat) :
    (placed line actions).drop (2 * i)
      = ⟨line + 2 * i, action.step⟩ :: ⟨line + 2 * i + 1, .wait action.waitSeconds⟩
          :: placed (line + 2 * i + 2) (actions.drop (i + 1)) := by
  induction actions generalizing line i with
  | nil => cases h
  | cons first actions ih =>
    cases i with
    | zero =>
      obtain rfl : first = action := by simpa using h
      rfl
    | succ i =>
      have hline : line + 2 * (i + 1) = line + 2 + 2 * i := by omega
      rw [hline]
      exact ih (by simpa using h) (line + 2)

/-- Parsing undoes recording. A script that actions were written to has two steps for each of them,
on lines that are known: the action itself, whose text is escaped and trimmed, and its wait. So a
text without control characters and without blanks on its outside is read back as it was typed. -/
theorem parse_undoes_recording {actions : List Action}
    (h : ∀ action ∈ actions, action.IsLegible) :
    ∃ steps, parse (actions.flatMap Action.script) = .ok steps
      ∧ steps.length = 2 * actions.length
      ∧ ∀ i action, actions[i]? = some action →
          steps[2 * i + 1]? = some ⟨2 * i + 2, .wait action.waitSeconds⟩
          ∧ (∀ name, action = .tap name → steps[2 * i]? = some ⟨2 * i + 1, .tap name⟩)
          ∧ ∀ text name, action = .enter text name →
              steps[2 * i]?
                = some ⟨2 * i + 1, .enter (Text.trim (Text.escapeControls text)) name⟩
              ∧ ((∀ c ∈ text, Text.isControl c = false) → Text.IsTrimmed text →
                  steps[2 * i]? = some ⟨2 * i + 1, .enter text name⟩) := by
  refine ⟨placed 1 actions, parse_script h, length_placed 1 actions, ?_⟩
  intro i action haction
  have hdrop := drop_placed haction 1
  rw [Nat.add_comm 1] at hdrop
  have hstep : (placed 1 actions)[2 * i]? = some ⟨2 * i + 1, action.step⟩ := by
    rw [← Nat.add_zero (2 * i), ← List.getElem?_drop, hdrop]
    rfl
  have hwait : (placed 1 actions)[2 * i + 1]?
      = some ⟨2 * i + 2, .wait action.waitSeconds⟩ := by
    rw [← List.getElem?_drop, hdrop]
    rfl
  refine ⟨hwait, ?_, ?_⟩
  · rintro name rfl
    exact hstep
  · rintro text name rfl
    refine ⟨hstep, ?_⟩
    intro hcontrol htrimmed
    rw [hstep, Action.step, Text.escapeControls_eq_self hcontrol, htrimmed.trim_eq]

/-- A text that has the separator in it, a text of control characters and a blank one. -/
theorem parse_of_odd_texts :
    let actions : List Action := [.enter "sign in now".toList "Search".toList,
      .enter "\r\n\x07 in".toList "a#b".toList, .tap "#".toList, .enter " ".toList "in".toList]
    (∀ action ∈ actions, action.IsLegible)
      ∧ ∃ steps, parse (actions.flatMap Action.script) = .ok steps
        ∧ steps[0]? = some ⟨1, .enter "sign in now".toList "Search".toList⟩
        ∧ steps[2]? = some ⟨3, .enter "\\r\\n\\u\x7b7\x7d in".toList "a#b".toList⟩
        ∧ steps[4]? = some ⟨5, .tap "#".toList⟩
        ∧ steps[6]? = some ⟨7, .enter [] "in".toList⟩ := by
  intro actions
  have hlegible : ∀ action ∈ actions, action.IsLegible := by
    intro action haction
    simp only [actions, List.mem_cons, List.not_mem_nil, or_false] at haction
    rcases haction with rfl | rfl | rfl | rfl
    all_goals
      refine ⟨Text.isSolid_of_any (by decide +kernel), by decide +kernel, ?_⟩
      rintro text name hkind
      cases hkind <;> decide +kernel
  obtain ⟨steps, hparse, -, hsteps⟩ := parse_undoes_recording hlegible
  refine ⟨hlegible, steps, hparse, ?_, ?_, ?_, ?_⟩
  · exact ((hsteps 0 _ rfl).2.2 _ _ rfl).1.trans (by decide +kernel)
  · exact ((hsteps 1 _ rfl).2.2 _ _ rfl).1.trans (by decide +kernel)
  · exact (hsteps 2 _ rfl).2.1 _ rfl
  · exact ((hsteps 3 _ rfl).2.2 _ _ rfl).1.trans (by decide +kernel)

end StepRecorder.Script
