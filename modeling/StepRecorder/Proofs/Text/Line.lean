import StepRecorder.Proofs.Text.Blank
import StepRecorder.Text.Line

/-!
Lines that are written are read again: where no line holds a line feed or ends with a carriage
return, the lines of the text are the lines that it was made of. No line of any text holds a line
feed.

Main statements: `lines_flatMap`, `lineFeed_not_mem_lines`.
-/

namespace StepRecorder.Text

theorem linesAfter_append_line {line : Text} (h : '\n' ∉ line) (held rest : Text) :
    linesAfter held (line ++ '\n' :: rest)
      = dropReturn (held.reverse ++ line) :: linesAfter [] rest := by
  induction line generalizing held with
  | nil => simp [linesAfter]
  | cons c line ih =>
    have hc : c ≠ '\n' := fun heq => h (heq ▸ List.mem_cons_self)
    have hline : '\n' ∉ line := fun hmem => h (List.mem_cons_of_mem _ hmem)
    rw [List.cons_append, linesAfter, if_neg hc, ih hline]
    simp

theorem lines_append_line {line : Text} (h : '\n' ∉ line) (rest : Text) :
    lines (line ++ '\n' :: rest) = dropReturn line :: lines rest := by
  simpa [lines] using linesAfter_append_line h [] rest

/-- The lines that a text is made of. -/
theorem lines_flatMap {texts : List Text}
    (h : ∀ line ∈ texts, '\n' ∉ line ∧ line.getLast? ≠ some '\r') :
    lines (texts.flatMap fun line => line ++ ['\n']) = texts := by
  induction texts with
  | nil => rfl
  | cons line texts ih =>
    obtain ⟨hline, htexts⟩ := List.forall_mem_cons.mp h
    rw [List.flatMap_cons, List.append_assoc, List.singleton_append, lines_append_line hline.1,
      ih htexts, dropReturn, if_neg hline.2]

theorem mem_of_mem_dropReturn {line : Text} {c : Char} (h : c ∈ dropReturn line) : c ∈ line := by
  unfold dropReturn at h
  split at h
  · exact (List.dropLast_prefix line).subset h
  · exact h

theorem lineFeed_not_mem_linesAfter {held text line : Text} (hheld : '\n' ∉ held)
    (h : line ∈ linesAfter held text) : '\n' ∉ line := by
  induction text generalizing held with
  | nil =>
    rw [linesAfter] at h
    split at h
    · cases h
    · rw [List.mem_singleton.mp h, List.mem_reverse]
      exact hheld
  | cons c text ih =>
    rw [linesAfter] at h
    split at h
    next =>
      rcases List.mem_cons.mp h with rfl | h
      · exact fun hmem => hheld (List.mem_reverse.mp (mem_of_mem_dropReturn hmem))
      · exact ih List.not_mem_nil h
    next hc =>
      refine ih ?_ h
      rintro (_ | ⟨_, hmem⟩)
      · exact hc rfl
      · exact hheld hmem

/-- The lines of a text hold no line feed. -/
theorem lineFeed_not_mem_lines {text line : Text} (h : line ∈ lines text) : '\n' ∉ line :=
  lineFeed_not_mem_linesAfter List.not_mem_nil h

end StepRecorder.Text
