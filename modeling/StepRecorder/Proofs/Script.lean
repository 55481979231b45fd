import Mathlib.Data.List.Count
import StepRecorder.Action
import StepRecorder.Proofs.Text.Control
import StepRecorder.Proofs.Text.Line
import StepRecorder.Script.Check

/-!
A script that actions were written to is read back: each action as a step, and the wait after it.

    Type hello in EmailField          enter "hello" "EmailField"     line 2 i + 1
    Wait for 1                        wait 1                         line 2 i + 2

A name without blanks is what makes this work: it comes after the last " in " of its line, whatever
the text before that is.

Main statements: `parse_script`, `check_script`.
-/

namespace StepRecorder

namespace Action

/-- An action that can be read back: its name is solid, and neither its name nor its text is
empty. -/
structure IsLegible (action : Action) : Prop where
  solid : Text.IsSolid action.target
  named : action.target ≠ []
  filled : ∀ text name, action = .enter text name → text ≠ []

theorem instruction_tap (name : Text) :
    (Action.tap name).instruction = "Tap on ".toList ++ name := rfl

theorem instruction_enter (text name : Text) :
    (Action.enter text name).instruction
      = "Type ".toList ++ (Text.escapeControls text ++ (" in ".toList ++ name)) := by
  rw [← List.append_assoc, ← List.append_assoc]
  rfl

theorem wait_cases (action : Action) :
    action.waitSeconds = 2 ∧ action.wait = "Wait for 2".toList
      ∨ action.waitSeconds = 1 ∧ action.wait = "Wait for 1".toList := by
  cases action with
  | tap name =>
    refine Or.inl ⟨rfl, ?_⟩
    change "Wait for ".toList ++ Text.decimal 2 = _
    decide +kernel
  | enter text name =>
    refine Or.inr ⟨rfl, ?_⟩
    change "Wait for ".toList ++ Text.decimal 1 = _
    decide +kernel

/-- The step that an action is read back as. -/
def step : Action → Step
  | .tap name => .tap name
  | .enter text name => .enter (Text.trim (Text.escapeControls text)) name

end Action

namespace Step

/-- Where no two spaces follow the first character, nothing is split. -/
theorem splitLast?_of_count_le {text : Text} (h : text.tail.count ' ' ≤ 1) :
    splitLast? " in ".toList text = none := by
  induction text with
  | nil => rfl
  | cons c rest ih =>
    have hrest : splitLast? " in ".toList rest = none :=
      ih (Nat.le_trans ((List.tail_sublist rest).count_le ' ') h)
    have htail : Text.after? " in ".toList rest = none := by
      by_contra hsome
      obtain ⟨right, hright⟩ := Option.ne_none_iff_exists'.mp hsome
      have heq := Text.eq_append_of_after? hright
      simp only [List.tail_cons] at h
      rw [heq, List.count_append] at h
      have : (" in ".toList).count ' ' = 2 := by decide
      omega
    rw [splitLast?, hrest, tail?, htail]
    rfl

/-- A line is split before a name without blanks. -/
theorem splitLast?_append {text name : Text} (htext : text ≠ []) (hname : name ≠ [])
    (hsolid : Text.IsSolid name) :
    splitLast? " in ".toList (text ++ (" in ".toList ++ name)) = some (text, name) := by
  have hspace : name.count ' ' = 0 := List.count_eq_zero.mpr (hsolid.not_mem (by decide))
  have hright : tail? " in ".toList (" in ".toList ++ name) = some name := by
    simp only [tail?, Text.after?_append, Option.bind_some]
    rw [if_neg (by simpa using hname)]
  have hnone : splitLast? " in ".toList (" in ".toList ++ name) = none := by
    refine splitLast?_of_count_le ?_
    simp [hspace]
  induction text with
  | nil => exact absurd rfl htext
  | cons c text ih =>
    rw [List.cons_append, splitLast?]
    by_cases hempty : text = []
    · subst hempty
      rw [List.nil_append, hnone, hright]
      rfl
    · rw [ih hempty]

theorem tail?_append (lead : Text) {rest : Text} (h : rest ≠ []) :
    tail? lead (lead ++ rest) = some rest := by
  simp only [tail?, Text.after?_append, Option.bind_some]
  rw [if_neg (by simpa using h)]

/-- Where a line begins with another word, it does not begin with this one. -/
theorem tail?_append_of_differ {word lead : Text}
    (h : (word.zip lead).any (fun pair => pair.1 != pair.2) = true) (rest : Text) :
    tail? word (lead ++ rest) = none := by
  rw [tail?, Text.after?_append_of_differ h]
  rfl

theorem isOpenBrowser_append {lead : Text} (h : lead.head? = some 'T') (rest : Text) :
    isOpenBrowser (lead ++ rest) = false := by
  refine decide_eq_false ?_
  intro hopen
  have hhead : ("open browser".toList).head? = some 't' := by
    rw [← hopen, List.head?_map, List.head?_append, h]
    rfl
  have hletter : ("open browser".toList).head? = some 'o' := by decide +kernel
  rw [hletter] at hhead
  exact absurd hhead (by decide)

/-- The instruction of an action is its step. -/
theorem ofLine_instruction {action : Action} (h : action.IsLegible) :
    ofLine action.instruction = .ok action.step := by
  obtain ⟨hsolid, hnamed, hfilled⟩ := h
  cases action with
  | tap name =>
    change Text.IsSolid name at hsolid
    change name ≠ [] at hnamed
    have hopen : isOpenBrowser ("Tap on ".toList ++ name) = false :=
      isOpenBrowser_append (by decide +kernel) name
    have hnavigate : tail? "Navigate to ".toList ("Tap on ".toList ++ name) = none :=
      tail?_append_of_differ (by decide +kernel) name
    have hverify : tail? "Verify ".toList ("Tap on ".toList ++ name) = none :=
      tail?_append_of_differ (by decide +kernel) name
    have htap : tail? "Tap on ".toList ("Tap on ".toList ++ name) = some name :=
      tail?_append _ hnamed
    rw [Action.instruction_tap, ofLine, hopen, hnavigate, hverify, htap]
    exact congrArg (fun found => Except.ok (Step.tap found)) hsolid.trim_eq
  | enter text name =>
    change Text.IsSolid name at hsolid
    change name ≠ [] at hnamed
    have hopen : ∀ rest, isOpenBrowser ("Type ".toList ++ rest) = false :=
      isOpenBrowser_append (by decide +kernel)
    have hnavigate : ∀ rest, tail? "Navigate to ".toList ("Type ".toList ++ rest) = none :=
      tail?_append_of_differ (by decide +kernel)
    have hverify : ∀ rest, tail? "Verify ".toList ("Type ".toList ++ rest) = none :=
      tail?_append_of_differ (by decide +kernel)
    have htap : ∀ rest, tail? "Tap on ".toList ("Type ".toList ++ rest) = none :=
      tail?_append_of_differ (by decide +kernel)
    have hsplit := splitLast?_append (Text.escapeControls_ne_nil (hfilled text name rfl)) hnamed
      hsolid
    rw [Action.instruction_enter, ofLine, hopen, hnavigate, hverify, htap, Text.after?_append,
      Option.bind_some, hsplit]
    exact congrArg (fun found => Except.ok (Step.enter _ found)) hsolid.trim_eq

theorem ofLine_wait (action : Action) : ofLine action.wait = .ok (.wait action.waitSeconds) := by
  rcases action.wait_cases with ⟨hseconds, hwait⟩ | ⟨hseconds, hwait⟩
  · rw [hseconds, hwait]
    decide +kernel
  · rw [hseconds, hwait]
    decide +kernel

end Step

namespace Action

variable {action : Action}

/-- An instruction begins with a letter and ends with the name. -/
theorem exists_instruction_eq (action : Action) :
    ∃ lead, action.instruction = 'T' :: lead ++ action.target ∧ '\n' ∉ lead := by
  cases action with
  | tap name =>
    refine ⟨"ap on ".toList, ?_, by decide⟩
    rw [instruction_tap]
    simp [target]
  | enter text name =>
    refine ⟨"ype ".toList ++ Text.escapeControls text ++ " in ".toList, ?_, ?_⟩
    · rw [instruction_enter]
      simp [target]
    · have hescaped : '\n' ∉ Text.escapeControls text := by
        intro hmem
        have hcontrol := Text.isControl_of_mem_escapeControls hmem
        revert hcontrol
        decide
      simp [hescaped]

theorem getLast?_instruction (h : action.IsLegible) :
    action.instruction.getLast? = action.target.getLast? := by
  obtain ⟨lead, hinstruction, -⟩ := exists_instruction_eq action
  rw [hinstruction, List.getLast?_append, Option.or_of_isSome]
  simpa using h.named

/-- Trimming leaves an instruction as it is. -/
theorem trim_instruction (h : action.IsLegible) :
    Text.trim action.instruction = action.instruction := by
  obtain ⟨lead, hinstruction, -⟩ := exists_instruction_eq action
  refine Text.trim_eq_self ?_ ?_
  · intro first hfirst
    rw [hinstruction] at hfirst
    obtain rfl : 'T' = first := by simpa using hfirst
    decide
  · intro last hlast
    rw [getLast?_instruction h] at hlast
    exact h.solid last (List.mem_of_getLast? hlast)

/-- No line of an action is broken or cut by the line feed behind it. -/
theorem lines_unbroken (h : action.IsLegible) :
    ∀ line ∈ action.lines, '\n' ∉ line ∧ line.getLast? ≠ some '\r' := by
  intro line hline
  simp only [lines, List.mem_cons, List.not_mem_nil, or_false] at hline
  rcases hline with rfl | rfl
  · obtain ⟨lead, hinstruction, hlead⟩ := exists_instruction_eq action
    constructor
    · have hname : '\n' ∉ action.target := h.solid.not_mem (by decide)
      simp [hinstruction, hlead, hname]
    · rw [getLast?_instruction h]
      intro hreturn
      exact h.solid.not_mem (by decide) (List.mem_of_getLast? hreturn)
  · rcases action.wait_cases with ⟨-, hwait⟩ | ⟨-, hwait⟩
    · rw [hwait]
      decide +kernel
    · rw [hwait]
      decide +kernel

theorem trim_wait (action : Action) : Text.trim action.wait = action.wait := by
  rcases action.wait_cases with ⟨-, hwait⟩ | ⟨-, hwait⟩
  · rw [hwait]
    decide +kernel
  · rw [hwait]
    decide +kernel

theorem isSkipped_instruction (action : Action) :
    Script.isSkipped action.instruction = false := by
  obtain ⟨lead, hinstruction, -⟩ := exists_instruction_eq action
  simp [hinstruction, Script.isSkipped]

theorem isSkipped_wait (action : Action) : Script.isSkipped action.wait = false := by
  rcases action.wait_cases with ⟨-, hwait⟩ | ⟨-, hwait⟩
  · rw [hwait]
    decide +kernel
  · rw [hwait]
    decide +kernel

end Action

namespace Script

/-- The steps of some actions, the first of which begins at a line. -/
def placed (line : Nat) : List Action → List Placed
  | [] => []
  | action :: actions =>
    ⟨line, action.step⟩ :: ⟨line + 1, .wait action.waitSeconds⟩ :: placed (line + 2) actions

theorem length_placed (line : Nat) (actions : List Action) :
    (placed line actions).length = 2 * actions.length := by
  induction actions generalizing line with
  | nil => rfl
  | cons action actions ih =>
    simp only [placed, List.length_cons, ih]
    omega

theorem ofLines_lines {actions : List Action} (h : ∀ action ∈ actions, action.IsLegible)
    (line : Nat) : ofLines line (actions.flatMap Action.lines) = .ok (placed line actions) := by
  induction actions generalizing line with
  | nil => rfl
  | cons action actions ih =>
    obtain ⟨haction, hactions⟩ := List.forall_mem_cons.mp h
    have hlines : (action :: actions).flatMap Action.lines
        = action.instruction :: action.wait :: actions.flatMap Action.lines := rfl
    rw [hlines]
    simp only [ofLines, Action.trim_instruction haction, Action.trim_wait,
      Action.isSkipped_instruction, Action.isSkipped_wait, Step.ofLine_instruction haction,
      Step.ofLine_wait, ih hactions, Bool.false_eq_true, if_false]
    rfl

/-- The lines of a script that actions were written to are those of the actions, two for each. -/
theorem lines_script {actions : List Action} (h : ∀ action ∈ actions, action.IsLegible) :
    Text.lines (actions.flatMap Action.script) = actions.flatMap Action.lines := by
  have hscript : actions.flatMap Action.script
      = (actions.flatMap Action.lines).flatMap fun line => line ++ ['\n'] := by
    rw [List.flatMap_assoc]
    rfl
  rw [hscript]
  refine Text.lines_flatMap fun line hline => ?_
  obtain ⟨action, haction, hmem⟩ := List.mem_flatMap.mp hline
  exact Action.lines_unbroken (h action haction) line hmem

theorem length_lines (actions : List Action) :
    (actions.flatMap Action.lines).length = 2 * actions.length := by
  induction actions with
  | nil => rfl
  | cons action actions ih =>
    simp only [List.flatMap_cons, List.length_append, List.length_cons, ih]
    change 2 + 2 * actions.length = _
    omega

/-- A script that actions were written to is read back as their steps, two for each. -/
theorem parse_script {actions : List Action} (h : ∀ action ∈ actions, action.IsLegible) :
    parse (actions.flatMap Action.script) = .ok (placed 1 actions) := by
  rw [parse, lines_script h, ofLines_lines h]

theorem missingOf_placed {keys : List Text} {actions : List Action}
    (h : ∀ action ∈ actions, action.target ∈ keys) (line : Nat) :
    (placed line actions).filterMap (missingOf keys) = [] := by
  induction actions generalizing line with
  | nil => rfl
  | cons action actions ih =>
    obtain ⟨haction, hactions⟩ := List.forall_mem_cons.mp h
    have hfound : keys.contains action.target = true := List.contains_iff_mem.mpr haction
    have hstep : missingOf keys ⟨line, action.step⟩ = none := by
      cases action <;> exact if_pos hfound
    have hwait : missingOf keys ⟨line + 1, .wait action.waitSeconds⟩ = none := rfl
    rw [placed, List.filterMap_cons_none hstep, List.filterMap_cons_none hwait, ih hactions]

/-- The script of actions passes the check against a registry that has all of their names. -/
theorem check_script {registry : Text} {entries : List (Text × Text)} {actions : List Action}
    (hregistry : Registry.ofText? registry = some entries)
    (hlegible : ∀ action ∈ actions, action.IsLegible)
    (hkeys : ∀ action ∈ actions, action.target ∈ Ordered.keys entries) :
    check registry (actions.flatMap Action.script) = .ok ⟨2 * actions.length, []⟩ := by
  simp only [check, hregistry, parse_script hlegible, length_placed, missingOf_placed hkeys]

end Script
end StepRecorder
