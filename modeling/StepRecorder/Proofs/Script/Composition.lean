import StepRecorder.Proofs.Script.Grammar

/-!
Scripts that are put together. A text that ends with a line feed ends with a whole line, so what
follows it is read as if it stood alone, some lines further down:

    first     Tap on A          1  tap A             first     1  tap A
              Wait for 2        2  wait 2                      2  wait 2
    second    # and then                             second    (skipped)
              Tap on B          2  tap B                       4  tap B

An error of the first part hides the second one. The check against a registry is put together in
the same way.

Main statement: `parsing_is_compositional`.
-/

namespace StepRecorder

namespace Text

/-- A text that ends with a whole line, or has no line at all. -/
def EndsLine (text : Text) : Prop := text = [] ∨ text.getLast? = some '\n'

variable {text : Text}

/-- The lines up to a line feed do not depend on what follows it. -/
theorem linesAfter_append_lineFeed (lead held rest : Text) :
    linesAfter held (lead ++ '\n' :: rest) = linesAfter held (lead ++ ['\n']) ++ lines rest := by
  induction lead generalizing held with
  | nil => rfl
  | cons c lead ih =>
    simp only [List.cons_append, linesAfter]
    by_cases hc : c = '\n'
    · rw [if_pos hc, if_pos hc, ih, List.cons_append]
    · rw [if_neg hc, if_neg hc, ih]

theorem length_linesAfter_lineFeed (lead held : Text) :
    (linesAfter held (lead ++ ['\n'])).length = lead.count '\n' + 1 := by
  induction lead generalizing held with
  | nil => rfl
  | cons c lead ih =>
    simp only [List.cons_append, linesAfter]
    by_cases hc : c = '\n'
    · rw [if_pos hc, List.length_cons, ih, hc, List.count_cons_self]
    · rw [if_neg hc, ih, List.count_cons_of_ne hc]

theorem EndsLine.cases (h : text.EndsLine) : text = [] ∨ ∃ lead, text = lead ++ ['\n'] := by
  rcases h with rfl | hlast
  · exact Or.inl rfl
  · obtain ⟨lead, rfl⟩ := List.getLast?_eq_some_iff.mp hlast
    exact Or.inr ⟨lead, rfl⟩

theorem EndsLine.lines_append (h : text.EndsLine) (rest : Text) :
    lines (text ++ rest) = lines text ++ lines rest := by
  rcases h.cases with rfl | ⟨lead, rfl⟩
  · rfl
  · rw [List.append_assoc, List.singleton_append]
    exact linesAfter_append_lineFeed lead [] rest

/-- A text of whole lines has as many of them as it has line feeds. -/
theorem EndsLine.length_lines (h : text.EndsLine) : (lines text).length = text.count '\n' := by
  rcases h.cases with rfl | ⟨lead, rfl⟩
  · rfl
  · rw [List.count_append]
    exact length_linesAfter_lineFeed lead []

end Text

namespace Script

/-- A step behind some more lines. -/
def Placed.behind (lines : Nat) (placed : Placed) : Placed := ⟨placed.line + lines, placed.step⟩

/-- An error behind some more lines. -/
def Error.behind (lines : Nat) : Error → Error
  | .unrecognized line content => .unrecognized (line + lines) content
  | .invalidWait line digits => .invalidWait (line + lines) digits

/-- A missing name behind some more lines. -/
def Missing.behind (lines : Nat) (missing : Missing) : Missing :=
  ⟨missing.line + lines, missing.name⟩

/-- The error of a check behind some more lines. That of the registry has no line. -/
def CheckError.behind (lines : Nat) : CheckError → CheckError
  | .registry => .registry
  | .script error => .script (error.behind lines)

theorem contentsFrom_append (number : Nat) (lines more : List Text) :
    contentsFrom number (lines ++ more)
      = contentsFrom number lines ++ contentsFrom (number + lines.length) more := by
  simp only [contentsFrom, List.map_append, List.zipIdx_append, List.filter_append,
    List.length_map]

/-- Lines are read one by one: those that come later do not matter to those before. -/
theorem ofLines_append (number : Nat) (lines more : List Text) :
    ofLines number (lines ++ more) = (do
      let steps ← ofLines number lines
      let rest ← ofLines (number + lines.length) more
      return steps ++ rest) := by
  simp only [ofLines_eq_mapM, contentsFrom_append, List.mapM_append]

/-- The number of the first line is only counted on from. -/
theorem ofLines_behind (number behind : Nat) (lines : List Text) :
    ofLines (number + behind) lines
      = ((ofLines number lines).map (List.map (Placed.behind behind))).mapError
          (Error.behind behind) := by
  induction lines generalizing number with
  | nil => rfl
  | cons line lines ih =>
    have hnext : number + behind + 1 = number + 1 + behind := Nat.add_right_comm ..
    simp only [ofLines, hnext, ih]
    split
    · rfl
    · cases Step.ofLine (Text.trim line) with
      | error fault => cases fault <;> rfl
      | ok step => cases ofLines (number + 1) lines <;> rfl

theorem parse_append {first : Text} (h : first.EndsLine) (second : Text) :
    parse (first ++ second) = (do
      let steps ← parse first
      let more ← (parse second).mapError (Error.behind (first.count '\n'))
      return steps ++ more.map (Placed.behind (first.count '\n'))) := by
  rw [parse, h.lines_append, ofLines_append, h.length_lines, ofLines_behind, ← parse, ← parse]
  cases parse first with
  | error error => rfl
  | ok steps => cases parse second <;> rfl

theorem missingOf_behind (keys : List Text) (lines : Nat) (placed : Placed) :
    missingOf keys (placed.behind lines) = (missingOf keys placed).map (Missing.behind lines) := by
  simp only [missingOf, Placed.behind]
  cases placed.step.elementName? with
  | none => rfl
  | some name =>
    simp only [Option.bind_some]
    split
    · rfl
    · rfl

theorem filterMap_missingOf_behind (keys : List Text) (lines : Nat) (steps : List Placed) :
    (steps.map (Placed.behind lines)).filterMap (missingOf keys)
      = (steps.filterMap (missingOf keys)).map (Missing.behind lines) := by
  rw [List.filterMap_map, List.map_filterMap]
  exact List.filterMap_congr fun placed _ => missingOf_behind keys lines placed

/-- Parsing and checking are compositional. Where a script goes on behind a whole line, its second
part is read as if it stood alone, with its lines counted on from the first part's; an error of the
first part comes first. A check against any registry counts the steps of both and finds what is
missing in both. -/
theorem parsing_is_compositional {first : Text} (h : first = [] ∨ first.getLast? = some '\n')
    (second : Text) :
    let lines := first.count '\n'
    parse (first ++ second) = (do
        let steps ← parse first
        let more ← (parse second).mapError (Error.behind lines)
        return steps ++ more.map (Placed.behind lines))
      ∧ ∀ registry, check registry (first ++ second) = (do
          let report ← check registry first
          let more ← (check registry second).mapError (CheckError.behind lines)
          return ⟨report.steps + more.steps,
            report.missing ++ more.missing.map (Missing.behind lines)⟩) := by
  intro lines
  have hparse := parse_append h second
  refine ⟨hparse, fun registry => ?_⟩
  simp only [check]
  cases Registry.ofText? registry with
  | none => rfl
  | some entries =>
    simp only [hparse]
    cases parse first with
    | error error => rfl
    | ok steps =>
      cases parse second with
      | error error => rfl
      | ok more =>
        have hmissing := filterMap_missingOf_behind (Ordered.keys entries) lines more
        simp only [bind, Except.bind, pure, Except.pure, Except.mapError, List.length_append,
          List.length_map, List.filterMap_append]
        rw [hmissing]

/-- A carriage return, a blank line and a comment in the first part, and a second part without a
line feed at its end. -/
theorem parsing_of_continued_script :
    let first := "Tap on A\r\n\n# and then\n".toList
    let second := "Verify B is visible\nTap on C".toList
    (first = [] ∨ first.getLast? = some '\n')
      ∧ parse (first ++ second) = .ok [⟨1, .tap "A".toList⟩, ⟨4, .verify "B".toList⟩,
          ⟨5, .tap "C".toList⟩]
      ∧ check "\x7b\"A\":\"xpath=//a\",\"C\":\"xpath=//c\"\x7d".toList (first ++ second)
        = .ok ⟨3, [⟨4, "B".toList⟩]⟩
      ∧ parse (first ++ "Wait for 1\nSwipe".toList)
        = .error (.unrecognized 5 "Swipe".toList) := by
  intro first second
  have hends : first = [] ∨ first.getLast? = some '\n' := Or.inr (by decide +kernel)
  obtain ⟨hparse, hcheck⟩ := parsing_is_compositional hends second
  refine ⟨hends, hparse.trans (by decide +kernel), (hcheck _).trans (by decide +kernel), ?_⟩
  exact (parsing_is_compositional hends _).1.trans (by decide +kernel)

end Script
end StepRecorder
