import Mathlib.Data.List.TakeWhile
import Mathlib.Tactic.Common
import StepRecorder.Log
import StepRecorder.Proofs.Text.Utf8

/-!
The lines of a log that grows. Bytes that are added to a log leave its complete lines as they are:
what is added continues the beginning of the next line, and nothing else.

Main statements: `split_terminated_append` says that lines which are written out, each with its line
feed, are the first ones that are read back; `split_prefix` that a log which grows keeps its lines.
-/

namespace StepRecorder.Log

/-- Some lines as they stand in a log, each with its line feed. -/
def terminated (lines : List Bytes) : Bytes := lines.flatMap (· ++ [lineFeed])

@[simp] theorem terminated_nil : terminated [] = [] := rfl

@[simp] theorem terminated_cons (line : Bytes) (lines : List Bytes) :
    terminated (line :: lines) = line ++ lineFeed :: terminated lines := by
  simp [terminated]

@[simp] theorem terminated_append (lines more : List Bytes) :
    terminated (lines ++ more) = terminated lines ++ terminated more := by
  simp [terminated]

/-- The complete lines and the beginning of the next one make up the log. -/
theorem terminated_split (log : Bytes) : terminated (split log).1 ++ (split log).2 = log :=
  (split_eq log).symm

theorem split_append_line {line : Bytes} (h : lineFeed ∉ line) (log : Bytes) :
    split (line ++ lineFeed :: log) = (line :: (split log).1, (split log).2) := by
  induction line with
  | nil => simp [split]
  | cons b line ih =>
    obtain ⟨hb, hline⟩ := List.ne_and_not_mem_of_not_mem_cons h
    rw [List.cons_append, split, ih hline]
    simp [Ne.symm hb]

theorem split_terminated_append {lines : List Bytes} (h : ∀ line ∈ lines, lineFeed ∉ line)
    (log : Bytes) :
    split (terminated lines ++ log) = (lines ++ (split log).1, (split log).2) := by
  induction lines with
  | nil => simp
  | cons line lines ih =>
    obtain ⟨hline, hlines⟩ := List.forall_mem_cons.mp h
    rw [terminated_cons, List.append_assoc, List.cons_append, split_append_line hline, ih hlines]
    rfl

theorem split_of_not_mem {log : Bytes} (h : lineFeed ∉ log) : split log = ([], log) := by
  induction log with
  | nil => rfl
  | cons b log ih =>
    obtain ⟨hb, hlog⟩ := List.ne_and_not_mem_of_not_mem_cons h
    rw [split, ih hlog]
    simp [Ne.symm hb]

theorem takeWhile_line {line : Bytes} (h : lineFeed ∉ line) (log : Bytes) :
    (line ++ lineFeed :: log).takeWhile (· ≠ lineFeed) = line := by
  have hline : ∀ b ∈ line, decide (b ≠ lineFeed) = true := by
    intro b hb
    exact decide_eq_true fun heq => h (heq ▸ hb)
  rw [List.takeWhile_append_of_pos hline, List.takeWhile_cons_of_neg (by simp), List.append_nil]

theorem takeWhile_rest {log : Bytes} (h : lineFeed ∉ log) :
    log.takeWhile (· ≠ lineFeed) = log := by
  rw [List.takeWhile_eq_self_iff]
  intro b hb
  exact decide_eq_true fun heq => h (heq ▸ hb)

/-- A piece of a log that reaches past its first line feed. -/
theorem take_line (line log : Bytes) {n : Nat} (h : line.length + 1 ≤ n) :
    (line ++ lineFeed :: log).take n
      = line ++ lineFeed :: ((line ++ lineFeed :: log).take n).drop (line.length + 1) := by
  obtain ⟨more, rfl⟩ := Nat.exists_eq_add_of_le h
  have hlog : line ++ lineFeed :: log = (line ++ [lineFeed]) ++ log := by simp
  have hlength : line.length + 1 = (line ++ [lineFeed]).length := by simp
  rw [hlog, hlength, List.take_length_add_append, List.drop_left]
  simp

theorem lineFeed_not_mem_split (log : Bytes) :
    (∀ line ∈ (split log).1, lineFeed ∉ line) ∧ lineFeed ∉ (split log).2 := by
  induction log with
  | nil => simp [split]
  | cons b log ih =>
    obtain ⟨hlines, hrest⟩ := ih
    rcases h : split log with ⟨lines, rest⟩
    rw [h] at hlines hrest
    by_cases hb : b = lineFeed
    · simpa [split, h, hb] using ⟨hlines, hrest⟩
    · cases lines with
      | nil => simp [split, h, hb, Ne.symm hb, hrest]
      | cons line lines =>
        obtain ⟨hline, hlines⟩ := List.forall_mem_cons.mp hlines
        have hfirst : lineFeed ∉ b :: line :=
          List.not_mem_cons_of_ne_of_not_mem (Ne.symm hb) hline
        simp only [split, h, hb, if_false]
        exact ⟨List.forall_mem_cons.mpr ⟨hfirst, hlines⟩, hrest⟩

theorem not_mem_of_mem_split {log line : Bytes} (h : line ∈ (split log).1) : lineFeed ∉ line :=
  (lineFeed_not_mem_split log).1 line h

/-- What is added to a log continues its last, incomplete line. -/
theorem split_append (log more : Bytes) :
    split (log ++ more)
      = ((split log).1 ++ (split ((split log).2 ++ more)).1,
          (split ((split log).2 ++ more)).2) := by
  have hlines := (lineFeed_not_mem_split log).1
  conv_lhs => rw [← terminated_split log, List.append_assoc]
  exact split_terminated_append hlines _

/-- A log that grows keeps its complete lines. -/
theorem split_prefix {log longer : Bytes} (h : log <+: longer) :
    (split log).1 <+: (split longer).1 := by
  obtain ⟨more, rfl⟩ := h
  rw [split_append]
  exact List.prefix_append ..

theorem length_terminated (lines : List Bytes) : lines.length ≤ (terminated lines).length := by
  induction lines with
  | nil => simp
  | cons line lines ih => simp; omega

/-- A log has no more complete lines than it has bytes. -/
theorem length_split_le (log : Bytes) : (split log).1.length ≤ log.length := by
  have h := congrArg List.length (terminated_split log)
  rw [List.length_append] at h
  have := length_terminated (split log).1
  omega

/-- Bytes without a line feed complete no line. -/
theorem length_split_append_le {first : Bytes} (h : lineFeed ∉ first) (log : Bytes) :
    (split (first ++ log)).1.length ≤ log.length := by
  by_cases hmem : lineFeed ∈ log
  · obtain ⟨line, rest, rfl, hline⟩ := List.eq_append_cons_of_mem hmem
    have hfree : lineFeed ∉ first ++ line := by
      rw [List.mem_append, not_or]
      exact ⟨h, hline⟩
    have hrest := length_split_le rest
    rw [← List.append_assoc, split_append_line hfree]
    simp only [List.length_cons, List.length_append]
    omega
  · rw [split_of_not_mem (by rw [List.mem_append, not_or]; exact ⟨h, hmem⟩)]
    exact Nat.zero_le _

/-! ### The text of a line -/

/-- The text of a line is told by its bytes without one carriage return at their end. -/
theorem exists_body (line : Bytes) :
    ∃ body, (line = body ++ [carriageReturn] ∨ line = body ∧ line.getLast? ≠ some carriageReturn)
      ∧ lineText line = Text.decodeLossy body := by
  by_cases h : line.getLast? = some carriageReturn
  · obtain ⟨body, rfl⟩ := List.getLast?_eq_some_iff.mp h
    exact ⟨body, Or.inl rfl, by simp [lineText]⟩
  · exact ⟨line, Or.inr ⟨rfl, h⟩, by rw [lineText, if_neg h]⟩

theorem lineFeed_not_mem_lineText {line : Bytes} (h : lineFeed ∉ line) :
    '\n' ∉ lineText line := by
  obtain ⟨body, hbody, htext⟩ := exists_body line
  rw [htext]
  refine Text.lineFeed_not_mem_decodeLossy fun hmem => h ?_
  rcases hbody with rfl | ⟨rfl, -⟩
  · exact List.mem_append_left _ hmem
  · exact hmem

end StepRecorder.Log
