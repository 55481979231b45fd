import StepRecorder.Follower
import StepRecorder.Proofs.Log

/-!
What a follower does with a log that grows. Between any two polls the bytes it has taken from the
file are the lines that it has handed out, the beginning of a line that it holds, and what it has
fetched but not looked at:

    ◀────────── taken from the log ──────────▶
    line ⏎ line ⏎ ... line ⏎ │ held │ fetched │ not yet fetched

`Follows` is that invariant. A log that grows keeps it (`Follows.grow`), and a poll keeps it and
hands out the next line exactly if that line is complete (`next_line`, `next_rest`).
-/

namespace StepRecorder.Follower

/-- A follower that has handed out the lines `done` of a log. -/
structure Follows (follower : Follower) (log : Bytes) (done : List Bytes) : Prop where
  taken : log.take follower.position
    = Log.terminated done ++ follower.held ++ follower.fetched
  position_le : follower.position ≤ log.length
  done_free : ∀ line ∈ done, Log.lineFeed ∉ line
  held_free : Log.lineFeed ∉ follower.held
  linesRead : follower.linesRead = done.length

theorem le_fetchedFor (n : Nat) : n ≤ fetchedFor n := by
  unfold fetchedFor chunk
  omega

/-- The text of the line that is handed out, if one is. -/
def Poll.text? : Poll → Option Text
  | .line _ text => some text
  | _ => none

/-- A follower counts the lines that it hands out. -/
theorem linesRead_next (follower : Follower) (disk : Disk) :
    (follower.next disk false).1.linesRead
      = follower.linesRead + (follower.next disk false).2.text?.toList.length := by
  simp only [next, Bool.false_eq_true, if_false]
  cases follower.source.content disk with
  | error error => rfl
  | ok content =>
    dsimp only
    split
    · rfl
    · simp only [takeRest]
      cases disk.entry? follower.path <;> rfl

namespace Follows

variable {follower : Follower} {log : Bytes} {done : List Bytes}

/-- A follower of a log that was just opened. -/
theorem start (path : Text) (source : Handle) (log : Bytes) :
    Follows { path, source } log [] := by
  refine ⟨by simp, by simp, by simp, by simp, rfl⟩

/-- What is handed out stays handed out while the log grows. -/
theorem grow (h : Follows follower log done) {longer : Bytes} (hlog : log <+: longer) :
    Follows follower longer done := by
  obtain ⟨more, rfl⟩ := hlog
  refine ⟨?_, ?_, h.done_free, h.held_free, h.linesRead⟩
  · rw [List.take_append_of_le_length h.position_le, h.taken]
  · have := h.position_le
    rw [List.length_append]
    omega

/-- The bytes of a log that follow the lines handed out. -/
def rest (follower : Follower) (log : Bytes) : Bytes :=
  follower.held ++ (follower.fetched ++ log.drop follower.position)

theorem log_eq (h : Follows follower log done) :
    log = Log.terminated done ++ rest follower log := by
  have hsplit := List.take_append_drop follower.position log
  rw [h.taken] at hsplit
  simpa [rest, List.append_assoc] using hsplit.symm

/-- The lines handed out are the first ones of the log. -/
theorem split_eq (h : Follows follower log done) :
    (Log.split log).1 = done ++ (Log.split (rest follower log)).1 := by
  have hlog := Log.split_terminated_append h.done_free (rest follower log)
  rw [← h.log_eq] at hlog
  rw [hlog]

theorem take_eq (h : Follows follower log done) :
    (Log.split log).1.take follower.linesRead = done := by
  rw [h.split_eq, h.linesRead, List.take_left']
  rfl

/-- The lines handed out last follow on those handed out before. -/
theorem drop_take_eq {lines : List Bytes} (h : Follows follower log (done ++ lines)) :
    ((Log.split log).1.drop done.length).take lines.length = lines := by
  have hall := h.take_eq
  rw [h.linesRead, List.length_append] at hall
  rw [List.take_drop, hall, List.drop_left]

theorem linesRead_le (h : Follows follower log done) :
    follower.linesRead ≤ (Log.split log).1.length := by
  rw [h.split_eq, h.linesRead, List.length_append]
  omega

/-- The next line of a log is the first one of what follows the lines handed out. -/
theorem getElem?_split (h : Follows follower log done) :
    (Log.split log).1[follower.linesRead]? = (Log.split (rest follower log)).1[0]? := by
  rw [h.split_eq, h.linesRead, List.getElem?_append_right (Nat.le_refl _), Nat.sub_self]

/-- The poll that hands out a line. -/
theorem takeLine (h : Follows follower log done) {line tail : Bytes}
    (hline : Log.lineFeed ∉ line)
    (hstream : follower.fetched ++ log.drop follower.position = line ++ Log.lineFeed :: tail) :
    Follows
      (follower.takeLine (log.drop follower.position)
        (follower.fetched ++ log.drop follower.position) line).1
      log (done ++ [follower.held ++ line]) := by
  set unread := log.drop follower.position with hunread
  set count := min unread.length (fetchedFor (line.length + 1 - follower.fetched.length))
    with hcount
  have hlength := congrArg List.length hstream
  simp only [List.length_append, List.length_cons] at hlength
  have hfetched := le_fetchedFor (line.length + 1 - follower.fetched.length)
  have hposition := h.position_le
  have hunreadLength : unread.length = log.length - follower.position := List.length_drop
  -- enough is fetched for the line with its line feed
  have hneeded : line.length + 1 ≤ follower.fetched.length + count := by omega
  have hsplit : (follower.fetched ++ unread).take (follower.fetched.length + count)
      = follower.fetched ++ unread.take count := by
    rw [List.take_length_add_append]
  refine ⟨?_, ?_, ?_, ?_, ?_⟩
  · calc log.take (follower.position + count)
        = log.take follower.position ++ unread.take count := by rw [List.take_add]
      _ = Log.terminated done ++ follower.held ++ (follower.fetched ++ unread.take count) := by
          rw [h.taken, List.append_assoc, List.append_assoc]
      _ = Log.terminated done ++ follower.held ++ (line ++ Log.lineFeed ::
            ((follower.fetched ++ unread).take (follower.fetched.length + count)).drop
              (line.length + 1)) := by rw [← hsplit, hstream, ← Log.take_line line tail hneeded]
      _ = _ := by simp [Follower.takeLine, hcount]
  · show follower.position + count ≤ log.length
    omega
  · intro found hfound
    rcases List.mem_append.mp hfound with hold | hnew
    · exact h.done_free found hold
    · rw [List.mem_singleton.mp hnew, List.mem_append, not_or]
      exact ⟨h.held_free, hline⟩
  · simp [Follower.takeLine]
  · simp [Follower.takeLine, h.linesRead]

/-- The poll at the end of what there is. -/
theorem takeRest (h : Follows follower log done) {stream : Bytes}
    (hstream : stream = follower.fetched ++ log.drop follower.position)
    (hfree : Log.lineFeed ∉ stream) :
    Follows
      { follower with
        position := follower.position + (log.drop follower.position).length
        fetched := []
        held := follower.held ++ stream } log done := by
  have hposition := h.position_le
  have hend : follower.position + (log.drop follower.position).length = log.length := by
    rw [List.length_drop]
    omega
  refine ⟨?_, Nat.le_of_eq hend, h.done_free, ?_, h.linesRead⟩
  · simp only [hend, List.take_length, List.append_nil]
    rw [hstream]
    exact h.log_eq
  · rw [List.mem_append, not_or]
    exact ⟨h.held_free, hfree⟩

/-- The next line of a log is complete exactly if its end is in what is not looked at yet. -/
theorem getElem?_eq (h : Follows follower log done) :
    (Log.split log).1[follower.linesRead]?
      = if Log.lineFeed ∈ follower.fetched ++ log.drop follower.position then
          some (follower.held ++
            (follower.fetched ++ log.drop follower.position).takeWhile (· ≠ Log.lineFeed))
        else none := by
  rw [h.getElem?_split, rest]
  split
  case isTrue hmem =>
    obtain ⟨line, tail, hstream, hline⟩ := List.eq_append_cons_of_mem hmem
    have hheld : Log.lineFeed ∉ follower.held ++ line := by
      rw [List.mem_append, not_or]
      exact ⟨h.held_free, hline⟩
    rw [hstream, Log.takeWhile_line hline, ← List.append_assoc, Log.split_append_line hheld]
    rfl
  case isFalse hfree =>
    rw [Log.split_of_not_mem (by rw [List.mem_append, not_or]; exact ⟨h.held_free, hfree⟩)]
    rfl

/-- A poll while the next line is complete hands it out. -/
theorem next_line (h : Follows follower log done) {disk : Disk} {line : Bytes}
    (hcontent : follower.source.content disk = .ok log)
    (hline : (Log.split log).1[follower.linesRead]? = some line) :
    ∃ next, follower.next disk false
        = (next, .line (follower.linesRead + 1) (Log.lineText line))
      ∧ Follows next log (done ++ [line])
      ∧ next.path = follower.path ∧ next.source = follower.source := by
  rw [h.getElem?_eq] at hline
  split at hline
  case isFalse => cases hline
  case isTrue hmem =>
    obtain ⟨piece, tail, hstream, hpiece⟩ := List.eq_append_cons_of_mem hmem
    rw [hstream, Log.takeWhile_line hpiece, Option.some.injEq] at hline
    subst hline
    refine ⟨_, ?_, h.takeLine hpiece hstream, rfl, rfl⟩
    have hlength : piece.length < (piece ++ Log.lineFeed :: tail).length := by simp
    simp only [Follower.next, hcontent, Bool.false_eq_true, if_false, hstream,
      Log.takeWhile_line hpiece, hlength, if_true]
    rfl

/-- A poll while no line is complete hands out nothing and loses nothing. It fails if the path leads
to nothing any more. -/
theorem next_rest (h : Follows follower log done) {disk : Disk}
    (hcontent : follower.source.content disk = .ok log)
    (hline : (Log.split log).1[follower.linesRead]? = none) :
    ∃ next, follower.next disk false = (next, match disk.entry? follower.path with
          | .ok _ => .waiting
          | .error error => .failed (follower.failure error))
      ∧ Follows next log done
      ∧ next.path = follower.path ∧ next.source = follower.source := by
  rw [h.getElem?_eq] at hline
  split at hline
  case isTrue => cases hline
  case isFalse hfree =>
    refine ⟨_, ?_, h.takeRest rfl hfree, rfl, rfl⟩
    simp only [Follower.next, hcontent, Bool.false_eq_true, if_false, Log.takeWhile_rest hfree,
      Nat.lt_irrefl, Follower.takeRest]
    cases disk.entry? follower.path <;> rfl

end Follows
end StepRecorder.Follower
