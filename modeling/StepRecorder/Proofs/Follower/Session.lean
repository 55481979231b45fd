import StepRecorder.Proofs.Files.Growth
import StepRecorder.Proofs.Follower
import StepRecorder.Proofs.Text.Utf8

/-!
A log is followed while others write to it, remove it and make it anew. A session is the disk, the
follower, all that was written to the file it follows, and the lines that were handed out so far;
what happens to it is a list of acts in any order. A call that has to wait is a series of polls with
other acts in between.

    write ─┐
    append ├─▶ disk ─▶ poll ─▶ line 1, line 2, ...
    remove ┘

Main statement: `hands_out_each_line_once`.
-/

namespace StepRecorder.Follower

/-- What can happen while a log is followed. -/
inductive Act where
  /-- Somebody who has the log open adds to it, wherever its path leads by now. -/
  | write (bytes : Bytes)
  /-- Somebody opens the path and adds to what it leads to; where nothing is, that makes a file. -/
  | append (bytes : Bytes)
  /-- What stands at the path goes away. -/
  | remove
  /-- The next line is asked for, by somebody who may have been told to stop. -/
  | poll (isCancelled : Bool)

/-- A follower on its disk, what was written to the file it follows, and the lines it has handed
out with their numbers. -/
structure Session where
  disk : Disk
  follower : Follower
  log : Bytes
  lines : List (Nat × Text) := []

namespace Session

/-- The session after an act. Whatever others do to a path may fail and then changes nothing. -/
def act (session : Session) : Act → Session
  | .write bytes =>
    { session with
      disk := session.follower.source.append session.disk bytes
      log := session.log ++ bytes }
  | .append bytes =>
    match session.disk.openWrite? false session.follower.path with
    | .error _ => session
    | .ok (disk, handle) =>
      { session with
        disk := handle.append disk bytes
        log := session.log ++ if handle = session.follower.source then bytes else [] }
  | .remove =>
    { session with
      disk := (session.disk.remove? session.follower.path).toOption.getD session.disk }
  | .poll isCancelled =>
    match session.follower.next session.disk isCancelled with
    | (follower, .line number text) =>
      { session with follower, lines := session.lines ++ [(number, text)] }
    | (follower, _) => { session with follower }

/-- The session after some acts. -/
def run (session : Session) (acts : List Act) : Session := acts.foldl act session

/-- Some lines of a log as they are handed out. -/
def numbered (lines : List Bytes) : List (Nat × Text) :=
  lines.mapIdx fun i line => (i + 1, Log.lineText line)

/-- What holds of a session on the file `id` at any time. -/
structure Sound (path : Text) (id : Nat) (session : Session) : Prop where
  path_eq : session.follower.path = path
  source_eq : session.follower.source = .file id
  id_lt : id < session.disk.fresh
  content : session.disk.content id = session.log
  follows : ∃ done, session.follower.Follows session.log done ∧ session.lines = numbered done

variable {path : Text} {id : Nat} {session : Session}

theorem numbered_concat (lines : List Bytes) (line : Bytes) :
    numbered (lines ++ [line]) = numbered lines ++ [(lines.length + 1, Log.lineText line)] := by
  simp [numbered, List.mapIdx_concat]

/-- A session that begins with a file. -/
theorem Sound.start (path : Text) {disk : Disk} (hid : id < disk.fresh) :
    Sound path id { disk, follower := { path, source := .file id }, log := disk.content id } :=
  ⟨rfl, rfl, hid, rfl, [], Follows.start path _ _, rfl⟩

theorem Sound.source_content (h : Sound path id session) :
    session.follower.source.content session.disk = .ok session.log := by
  rw [h.source_eq, ← h.content]
  rfl

/-- What others do to a disk keeps a session sound, if it tells what they add to the file. -/
theorem Sound.onDisk (h : Sound path id session) {disk : Disk} {bytes : Bytes}
    (hdisk : session.disk.Adds id bytes disk) :
    Sound path id { session with disk, log := session.log ++ bytes } := by
  obtain ⟨done, hfollows, hlines⟩ := h.follows
  refine ⟨h.path_eq, h.source_eq, Nat.lt_of_lt_of_le h.id_lt hdisk.fresh, ?_, done, ?_, hlines⟩
  · rw [hdisk.content, h.content]
  · exact hfollows.grow (List.prefix_append ..)

/-- A poll keeps a session sound. -/
theorem Sound.poll (h : Sound path id session) (isCancelled : Bool) :
    Sound path id (session.act (.poll isCancelled)) := by
  obtain ⟨done, hfollows, hlines⟩ := h.follows
  cases isCancelled with
  | true => exact h
  | false =>
    cases hline : (Log.split session.log).1[session.follower.linesRead]? with
    | some line =>
      obtain ⟨next, hnext, hfollows', hpath, hsource⟩ :=
        hfollows.next_line h.source_content hline
      simp only [act, hnext]
      refine ⟨hpath.trans h.path_eq, hsource.trans h.source_eq, h.id_lt, h.content,
        done ++ [line], hfollows', ?_⟩
      rw [numbered_concat, hlines, hfollows.linesRead]
    | none =>
      obtain ⟨next, hnext, hfollows', hpath, hsource⟩ :=
        hfollows.next_rest h.source_content hline
      simp only [act, hnext]
      cases session.disk.entry? session.follower.path
      all_goals
        exact ⟨hpath.trans h.path_eq, hsource.trans h.source_eq, h.id_lt, h.content,
          done, hfollows', hlines⟩

/-- Every act keeps a session sound. -/
theorem Sound.act (h : Sound path id session) (act : Act) :
    Sound path id (session.act act) := by
  cases act with
  | write bytes =>
    have hdisk := Disk.Adds.append id session.disk bytes session.follower.source
    rw [if_pos h.source_eq] at hdisk
    exact h.onDisk hdisk
  | append bytes =>
    simp only [Session.act]
    split
    · exact h
    next disk handle hopen =>
      rw [h.source_eq]
      exact h.onDisk ((Disk.Adds.openWrite h.id_lt hopen).trans (Disk.Adds.append id disk bytes _))
  | remove =>
    have hdisk : session.disk.Adds id []
        ((session.disk.remove? session.follower.path).toOption.getD session.disk) := by
      cases hremove : session.disk.remove? session.follower.path with
      | error error => exact Disk.Adds.refl id session.disk
      | ok disk => exact Disk.Adds.remove? hremove
    have hsound := h.onDisk hdisk
    rw [List.append_nil] at hsound
    exact hsound
  | poll isCancelled => exact h.poll isCancelled

theorem Sound.run (h : Sound path id session) (acts : List Act) :
    Sound path id (session.run acts) := by
  induction acts generalizing session with
  | nil => exact h
  | cons act acts ih => exact ih (h.act act)

/-- What a live poll of a sound session comes to: the next line, if it is complete. -/
theorem Sound.live (h : Sound path id session) :
    (session.follower.next session.disk false).2
      = match (Log.split session.log).1[session.follower.linesRead]? with
        | some line => .line (session.follower.linesRead + 1) (Log.lineText line)
        | none =>
          match session.disk.entry? path with
          | .ok _ => .waiting
          | .error error => .failed (.sourceUnavailable path (.system error)) := by
  obtain ⟨done, hfollows, -⟩ := h.follows
  cases hline : (Log.split session.log).1[session.follower.linesRead]? with
  | some line =>
    obtain ⟨next, hnext, -⟩ := hfollows.next_line h.source_content hline
    rw [hnext]
  | none =>
    obtain ⟨next, hnext, -⟩ := hfollows.next_rest h.source_content hline
    rw [hnext, h.path_eq]
    cases hentry : session.disk.entry? path <;> simp [Follower.failure, h.path_eq]

end Session

open Session in
/-- However polls, writes and what happens to the path alternate: the lines handed out are the first
complete ones of all that was written to the file, in order and numbered from 1; each is its bytes
without the line feed and without one carriage return before that, read as text, and holds no line
feed; a live poll hands out the next line if that is complete and fails only if none is; and one
that was told to stop changes nothing. Files made later get numbers from `fresh` on, so `hid` says
that the number of the file has been given out. -/
theorem hands_out_each_line_once {disk : Disk} {path : Text} {id : Nat} (hid : id < disk.fresh)
    (hopen : disk.openRead? path = .ok (.file id)) :
    ∃ follower, Follower.open? disk path = .ok follower ∧ ∀ acts : List Act,
      let session := Session.run { disk, follower, log := disk.content id } acts
      let lines := (Log.split session.log).1
      let count := session.follower.linesRead
      session.disk.content id = session.log
      ∧ count ≤ lines.length
      ∧ session.lines = (lines.take count).mapIdx (fun i line => (i + 1, Log.lineText line))
      ∧ (∀ line ∈ lines, ∃ body,
          (line = body ++ [Log.carriageReturn]
            ∨ line = body ∧ line.getLast? ≠ some Log.carriageReturn)
          ∧ Log.lineText line = Text.decodeLossy body)
      ∧ (∀ line ∈ session.lines, '\n' ∉ line.2)
      ∧ (∀ line, lines[count]? = some line →
          (session.follower.next session.disk false).2 = .line (count + 1) (Log.lineText line))
      ∧ (∀ failure, (session.follower.next session.disk false).2 = .failed failure →
          count = lines.length ∧ ∃ error, failure = .sourceUnavailable path (.system error))
      ∧ (count = lines.length → (session.follower.next session.disk false).2 = .waiting
          ∨ ∃ failure, (session.follower.next session.disk false).2 = .failed failure)
      ∧ session.follower.next session.disk true = (session.follower, .ended) := by
  refine ⟨{ path, source := .file id }, by rw [Follower.open?, hopen], ?_⟩
  intro acts session lines count
  have hsound : Sound path id session := (Sound.start path hid).run acts
  obtain ⟨done, hfollows, hdone⟩ := hsound.follows
  have hlines : session.lines = numbered (lines.take count) := by rw [hdone, hfollows.take_eq]
  refine ⟨hsound.content, hfollows.linesRead_le, hlines, ?_, ?_, ?_, ?_, ?_, rfl⟩
  · exact fun line _ => Log.exists_body line
  · intro handedOut hmem
    rw [hlines, numbered, List.mem_mapIdx] at hmem
    obtain ⟨i, hi, rfl⟩ := hmem
    have hline : (lines.take count)[i] ∈ lines := List.mem_of_mem_take (List.getElem_mem hi)
    exact Log.lineFeed_not_mem_lineText (Log.not_mem_of_mem_split hline)
  · intro line hline
    rw [hsound.live, hline]
  · intro failure hfailed
    rw [hsound.live] at hfailed
    split at hfailed
    · cases hfailed
    next hnone =>
      have hcount : count = lines.length :=
        Nat.le_antisymm hfollows.linesRead_le (List.getElem?_eq_none_iff.mp hnone)
      split at hfailed
      · cases hfailed
      next error _ => exact ⟨hcount, error, (Poll.failed.inj hfailed).symm⟩
  · intro hcount
    have hnone : lines[count]? = none := List.getElem?_eq_none_iff.mpr (Nat.le_of_eq hcount.symm)
    rw [hsound.live, hnone]
    cases session.disk.entry? path with
    | ok entry => exact Or.inl rfl
    | error error => exact Or.inr ⟨_, rfl⟩

/-- A line break and a character that are cut in two, at a path that is gone before the end. -/
theorem hands_out_cut_lines :
    let disk : Disk := { entries := [(["log".toList], .file 0)], fresh := 1 }
    let acts : List Act :=
      [.write [0x61, 13], .poll false, .write [10, 0xC3], .poll false, .poll true, .remove,
        .poll false, .write [0xA9, 10], .append [0x62, 10], .poll false, .poll false]
    0 < disk.fresh
    ∧ disk.openRead? "log".toList = .ok (.file 0)
    ∧ ∃ follower, Follower.open? disk "log".toList = .ok follower
      ∧ (Session.run { disk, follower, log := [] } acts).lines
        = [(1, "a".toList), (2, "é".toList)] := by
  intro disk acts
  have hopen : disk.openRead? "log".toList = .ok (.file 0) := rfl
  have hid : 0 < disk.fresh := by decide
  obtain ⟨follower, hfollower, hacts⟩ := hands_out_each_line_once hid hopen
  refine ⟨hid, hopen, follower, hfollower, ?_⟩
  obtain rfl : { path := "log".toList, source := .file 0 } = follower := Except.ok.inj hfollower
  refine (hacts acts).2.2.1.trans ?_
  decide +kernel

end StepRecorder.Follower
