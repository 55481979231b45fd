import StepRecorder.Proofs.Artifacts
import StepRecorder.Proofs.Correlation.Run
import StepRecorder.Proofs.Files.Extends
import StepRecorder.Proofs.Follower
import StepRecorder.Recording

/-!
A recording while its log grows. What happens is a list of acts: bytes are added to the log, or the
recording looks for its next line. In between, the log, the lines taken from it and the artifacts
are told by four values:

    log        what the log holds               done     the lines taken from it
    entries    what the registry holds          script   what the script holds

`Stands` is that relation. Preparing a recording establishes it (`exists_stands_prepare`), a log
that grows keeps it (`Stands.append`), looking for a line takes the next one exactly if it is
complete (`Stands.advance_line`, `Stands.advance_rest`), and an event that the sink accepts adds to
the artifacts what its step says (`Stands.onEvent`). What all of these keep is kept by a whole run
(`run_induction`).
-/

namespace StepRecorder.Recording

/-- What can happen while a recording goes on. -/
inductive Act where
  /-- Somebody adds to the log. -/
  | append (bytes : Bytes)
  /-- The recording looks for its next line, and processes it. -/
  | poll

/-- What an act adds to the log. -/
def Act.bytes : Act → Bytes
  | .append bytes => bytes
  | .poll => []

/-- The recording after an act. -/
def act (conduct : Conduct) (log : Text) (recording : Recording) : Act → Recording
  | .append bytes => recording.onDisk fun disk => (disk.append? log bytes).toOption.getD disk
  | .poll => (recording.advance conduct).1

/-- The recording after some acts. -/
def run (conduct : Conduct) (log : Text) (recording : Recording) (acts : List Act) : Recording :=
  acts.foldl (act conduct log) recording

/-- The text of the line that a recording takes, if it looks for one now. -/
def nextText? (recording : Recording) : Option Text :=
  if recording.failure.isSome then none
  else (recording.follower.next recording.disk false).2.text?

/-- What is kept when the log grows, and when the next line is looked for, is kept by a run. -/
theorem run_induction {conduct : Conduct} {path : Text} {motive : Recording → Bytes → Prop}
    (append : ∀ recording log bytes, motive recording log →
      motive (recording.act conduct path (.append bytes)) (log ++ bytes))
    (poll : ∀ recording log, motive recording log → motive (recording.advance conduct).1 log)
    {recording : Recording} {log : Bytes} (h : motive recording log) (acts : List Act) :
    motive (recording.run conduct path acts) (log ++ acts.flatMap Act.bytes) := by
  induction acts generalizing recording log with
  | nil => simpa [run] using h
  | cons act acts ih =>
    have hact : motive (recording.act conduct path act) (log ++ act.bytes) := by
      cases act with
      | append bytes => exact append recording log bytes h
      | poll => simpa [Recording.act, Act.bytes] using poll recording log h
    simpa [run] using ih hact

/-- A recording that has taken the lines `done` of its log, and what its artifacts hold. -/
structure Stands (paths : Paths) (layout : Layout) (recording : Recording) (log : Bytes)
    (done : List Bytes) (entries : List (Text × Text)) (script : Text) : Prop where
  kept : Artifacts.Kept paths layout recording.recorder.store entries script
  path : recording.follower.path = paths.log
  source : ∃ id, recording.follower.source = .file id
    ∧ recording.disk.at? layout.log = some (.file id) ∧ recording.disk.content id = log
  follows : recording.follower.Follows log done

variable {paths : Paths} {layout : Layout} {recording : Recording} {log : Bytes}
  {done : List Bytes} {entries : List (Text × Text)} {script : Text} (conduct : Conduct)

namespace Stands

theorem sound (h : Stands paths layout recording log done entries script) :
    recording.disk.IsSound := h.kept.sound

theorem ways (h : Stands paths layout recording log done entries script) :
    layout.IsOn recording.disk paths := h.kept.ways

theorem source_content (h : Stands paths layout recording log done entries script) :
    recording.follower.source.content recording.disk = .ok log := by
  obtain ⟨id, hsource, -, hcontent⟩ := h.source
  rw [hsource, ← hcontent]
  rfl

theorem read?_log (h : Stands paths layout recording log done entries script) :
    recording.disk.read? paths.log = .ok log := by
  obtain ⟨id, -, hfile, hcontent⟩ := h.source
  rw [Disk.read?_of_file h.ways.log hfile, hcontent]

/-- The log is there at any time. -/
theorem entry?_log (h : Stands paths layout recording log done entries script) :
    ∃ id, recording.disk.entry? recording.follower.path = .ok (.file id) := by
  obtain ⟨id, -, hfile, -⟩ := h.source
  refine ⟨id, ?_⟩
  rw [h.path]
  simp [Disk.entry?, Disk.place?_of_filePlace? h.ways.log, hfile, bind, Except.bind]

/-- Only what is told counts. -/
theorem congr (h : Stands paths layout recording log done entries script) {recording' : Recording}
    (hstore : recording'.recorder.store = recording.recorder.store)
    (hfollower : recording'.follower = recording.follower) :
    Stands paths layout recording' log done entries script := by
  have hdisk : recording'.disk = recording.disk := by rw [disk, disk, hstore]
  obtain ⟨hkept, hpath, hsource, hfollows⟩ := h
  exact ⟨hstore ▸ hkept, hfollower ▸ hpath, by rwa [hfollower, hdisk], hfollower ▸ hfollows⟩

/-- What is written to the artifacts leaves the log alone. -/
theorem onStore (h : Stands paths layout recording log done entries script)
    {recorder : Recorder Artifacts.Store} {more : List (Text × Text)} {longer : Text}
    (hkept : Artifacts.Kept paths layout recorder.store more longer)
    (hspares : recording.disk.Spares layout.written recorder.store.disk) :
    Stands paths layout { recording with recorder } log done more longer := by
  obtain ⟨id, hsource, hfile, hcontent⟩ := h.source
  have hlog := h.kept.ways.isApart_log h.kept.apart
  refine ⟨hkept, h.path, ⟨id, hsource, ?_, ?_⟩, h.follows⟩
  · exact (hspares.at? _ hlog.notMem).trans hfile
  · exact (hspares.content _ _ hlog hfile).trans hcontent

/-- A log that grows leaves the artifacts alone. -/
theorem append (h : Stands paths layout recording log done entries script) (bytes : Bytes) :
    Stands paths layout (recording.act conduct paths.log (.append bytes)) (log ++ bytes) done
      entries script := by
  obtain ⟨id, hsource, hfile, hcontent⟩ := h.source
  have happend : recording.recorder.store.disk.append? paths.log bytes
      = .ok ((Handle.file id).write recording.disk (recording.disk.content id).length bytes) :=
    Disk.append?_of_file h.ways.log hfile bytes
  have hact : recording.act conduct paths.log (.append bytes)
      = recording.onDisk fun _ =>
          (Handle.file id).write recording.disk (recording.disk.content id).length bytes := by
    simp only [act, onDisk, happend]
    rfl
  have hspares := Disk.spares_write hfile (recording.disk.content id).length bytes
  obtain ⟨hregistry, htemporary, hsteps, -⟩ := h.ways.apart
  rw [hact]
  refine ⟨h.kept.spares (h.sound.write _ _ (.file id)) ?_ hspares (by simp [Layout.places])
      (Ne.symm hregistry) (Ne.symm hsteps), h.path,
    ⟨id, hsource, hfile, ?_⟩, h.follows.grow (List.prefix_append ..)⟩
  · exact hspares.isPlain (by simpa using Ne.symm htemporary) h.kept.temporary
  · refine (Handle.content_write_self ..).trans ?_
    rw [Handle.overwrite_end, hcontent]

/-- Where the next line of the log is complete, a recording takes it. -/
theorem advance_line (h : Stands paths layout recording log done entries script)
    (hfailure : recording.failure = none) {line : Bytes}
    (hline : (Log.split log).1[done.length]? = some line) :
    ∃ follower, recording.advance conduct
        = (({ recording with follower }).onLine conduct (Log.lineText line), true)
      ∧ Stands paths layout { recording with follower } log (done ++ [line]) entries script := by
  rw [← h.follows.linesRead] at hline
  obtain ⟨follower, hnext, hfollows, hpath, hsource⟩ :=
    h.follows.next_line h.source_content hline
  obtain ⟨id, hid, hfile⟩ := h.source
  refine ⟨follower, ?_, h.kept, hpath.trans h.path, ⟨id, hsource.trans hid, hfile⟩, hfollows⟩
  simp [advance, hfailure, hnext]

/-- Where it is not, a recording waits. -/
theorem advance_rest (h : Stands paths layout recording log done entries script)
    (hfailure : recording.failure = none) (hline : (Log.split log).1[done.length]? = none) :
    ∃ follower, recording.advance conduct = ({ recording with follower }, false)
      ∧ Stands paths layout { recording with follower } log done entries script := by
  rw [← h.follows.linesRead] at hline
  obtain ⟨follower, hnext, hfollows, hpath, hsource⟩ :=
    h.follows.next_rest h.source_content hline
  obtain ⟨logId, hentry⟩ := h.entry?_log
  obtain ⟨id, hid, hfile⟩ := h.source
  refine ⟨follower, ?_, h.kept, hpath.trans h.path, ⟨id, hsource.trans hid, hfile⟩, hfollows⟩
  rw [hentry] at hnext
  simp [advance, hfailure, hnext]

/-- The text that it takes is that of the next line, if that is complete. -/
theorem nextText?_eq (h : Stands paths layout recording log done entries script)
    (hfailure : recording.failure = none) :
    recording.nextText? = (Log.split log).1[done.length]?.map Log.lineText := by
  rw [← h.follows.linesRead, nextText?, hfailure]
  cases hline : (Log.split log).1[recording.follower.linesRead]? with
  | some line =>
    obtain ⟨next, hnext, -⟩ := h.follows.next_line h.source_content hline
    rw [hnext]
    rfl
  | none =>
    obtain ⟨next, hnext, -⟩ := h.follows.next_rest h.source_content hline
    obtain ⟨id, hentry⟩ := h.entry?_log
    rw [hnext, hentry]
    rfl

end Stands

/-! ### Events -/

/-- The step of an event in the state of a recording. -/
abbrev effect (conduct : Conduct) (recording : Recording) (event : Event) : Correlation.Effect :=
  Correlation.step conduct.target conduct.oracle recording.recorder.state event

/-- What an event changes in a recording if nothing fails. -/
structure Takes (conduct : Conduct) (recording : Recording) (event : Event) (next : Recording) :
    Prop where
  sink : next.sink = recording.sink
  failure : next.failure = recording.failure
  state : next.recorder.state = (recording.effect conduct event).state
  events : next.events = recording.events + 1
  bindings : next.bindings
    = recording.bindings + (recording.effect conduct event).outcome.bindings
  actions : next.actions
    = recording.actions + (recording.effect conduct event).outcome.actions.length

theorem count_eq (recording : Recording) (outcome : Correlation.Outcome) :
    recording.count outcome
      = { recording with
          bindings := recording.bindings + outcome.bindings
          actions := recording.actions + outcome.actions.length } := by
  cases outcome <;> rfl

/-- Whether a sink carries out a write as the artifacts do. -/
def Accepts (sink : Sink Artifacts.Store) (store : Artifacts.Store)
    (write : Correlation.Write) : Prop :=
  sink.perform store write = Artifacts.perform store write

/-- On plain places an event succeeds if its write is accepted, and the artifacts come to hold what
its step says. -/
theorem process_of_kept {sink : Sink Artifacts.Store} {recorder : Recorder Artifacts.Store}
    (h : Artifacts.Kept paths layout recorder.store recorder.state.registry.locators script)
    (event : Event)
    (haccepts : ∀ write ∈
      (Correlation.step conduct.target conduct.oracle recorder.state event).write,
      Accepts sink recorder.store write) :
    let effect := Correlation.step conduct.target conduct.oracle recorder.state event
    let done := recorder.process sink conduct event
    done.recorder.state = effect.state ∧ done.result = .ok effect.outcome
      ∧ Artifacts.Kept paths layout done.recorder.store effect.state.registry.locators
          (script ++ effect.outcome.actions.flatMap Action.script)
      ∧ recorder.store.disk.Spares layout.written done.recorder.store.disk := by
  intro effect done
  have hstep := Correlation.transition_step conduct.target conduct.oracle recorder.state event
  have hlocators : effect.state.registry.locators
      = Correlation.entriesAfter recorder.state.registry.locators effect.write := hstep.locators
  have hactions : effect.outcome.actions = Correlation.actionsIn effect.write := hstep.actions
  cases hwrite : effect.write with
  | none =>
    obtain ⟨hrecorder, hresult⟩ := Recorder.process_of_write_none conduct sink hwrite
    change done.recorder = ⟨effect.state, recorder.store⟩ at hrecorder
    rw [hwrite] at hlocators hactions
    rw [hrecorder, hlocators, hactions]
    refine ⟨rfl, hresult, ?_, .refl _ _⟩
    simpa [Correlation.actionsIn, Correlation.entriesAfter] using h
  | some write =>
    obtain ⟨hrecorder, hresult⟩ := Recorder.process_of_write_some conduct sink hwrite
    rw [haccepts write hwrite] at hrecorder hresult
    change done.recorder = ⟨effect.state, (Artifacts.perform recorder.store write).store⟩
      at hrecorder
    change done.result = (Artifacts.perform recorder.store write).result.map _ at hresult
    obtain ⟨hok, hkept, hspares⟩ := h.perform write
    rw [hok] at hresult
    rw [hwrite] at hlocators hactions
    rw [hrecorder, hlocators, hactions]
    exact ⟨rfl, hresult, hkept, hspares⟩

/-- An event that is accepted. -/
theorem Stands.onEvent
    (h : Stands paths layout recording log done recording.recorder.state.registry.locators script)
    (event : Event)
    (haccepts : ∀ write ∈ (recording.effect conduct event).write,
      Accepts recording.sink recording.recorder.store write) :
    let outcome := (recording.effect conduct event).outcome
    let next := recording.onEvent conduct event
    recording.Takes conduct event next
      ∧ Stands paths layout next log done next.recorder.state.registry.locators
          (script ++ outcome.actions.flatMap Action.script) := by
  intro outcome next
  obtain ⟨hstate, hresult, hkept, hspares⟩ := process_of_kept conduct h.kept event haccepts
  have hnext : next = ({ recording with
      recorder := (recording.recorder.process recording.sink conduct event).recorder
      events := recording.events + 1
      notices := recording.notices
        ++ (recording.recorder.process recording.sink conduct event).notices }
      : Recording).count outcome := by
    simp only [next, Recording.onEvent, hresult]
    rfl
  rw [hnext, count_eq]
  refine ⟨⟨rfl, rfl, hstate, rfl, rfl, rfl⟩, ?_⟩
  rw [hstate]
  exact (h.onStore hkept hspares).congr rfl rfl

/-! ### The start -/

/-- Makes sure that there is a log, and makes the directories on the way to the artifacts. -/
def makeWays (disk : Disk) (paths : Paths) : Disk × Except Failure Unit :=
  match Follower.ensure disk paths.log with
  | (disk, .error failure) => (disk, .error failure)
  | (disk, .ok ()) => Artifacts.makeWays disk [paths.registry, paths.steps]

/-- A disk on which the ways to the files of a recording can be made. They then lead to four
different plain places with different files, and `source` is the file of the log. Whatever else is
on the disk, and whatever the artifacts hold, makes no difference. -/
structure Ready (paths : Paths) (layout : Layout) (source : Nat) (disk ready : Disk) : Prop where
  sound : disk.IsSound
  made : makeWays disk paths = (ready, .ok ())
  ways : layout.IsOn ready paths
  apart : ready.AreApart layout.places
  log : ready.at? layout.log = some (.file source)
  plain : ∀ place ∈ layout.written, ready.IsPlain place

variable {disk ready ensured : Disk} {source : Nat}

theorem ensure_eq_ok (h : Follower.ensure disk paths.log = (ensured, .ok ())) :
    ∃ handle, (disk.makeParents paths.log).1.openWrite? false paths.log
      = .ok (ensured, handle) := by
  unfold Follower.ensure at h
  split at h
  · cases (Prod.mk.inj h).2
  next made hmade =>
    rw [hmade]
    split at h
    next opened handle hopen =>
      obtain ⟨rfl, -⟩ := Prod.mk.inj h
      exact ⟨handle, hopen⟩
    · cases (Prod.mk.inj h).2

/-- What making the ways keeps: a sound disk, and all that was there. -/
theorem makeWays_induction {motive : Disk → Prop}
    (ways : ∀ disk path, motive disk → motive (disk.makeParents path).1)
    (paths : List Text) (disk : Disk) (h : motive disk) :
    motive (Artifacts.makeWays disk paths).1 := by
  induction paths generalizing disk with
  | nil => exact h
  | cons path paths ih =>
    have hpath := ways disk path h
    unfold Artifacts.makeWays
    split
    next made hmade =>
      rw [hmade] at hpath
      exact ih made hpath
    next made error hmade =>
      rw [hmade] at hpath
      exact hpath

namespace Ready

theorem exists_ensured (h : Ready paths layout source disk ready) :
    ∃ ensured, Follower.ensure disk paths.log = (ensured, .ok ())
      ∧ Artifacts.makeWays ensured [paths.registry, paths.steps] = (ready, .ok ()) := by
  have hmade := h.made
  unfold makeWays at hmade
  split at hmade
  · cases (Prod.mk.inj hmade).2
  next ensured hensured => exact ⟨ensured, hensured, hmade⟩

/-- Making the ways keeps the disk sound, and all that was there. -/
theorem sound_and_extends (h : Ready paths layout source disk ready) :
    ready.IsSound ∧ disk.Extends ready := by
  obtain ⟨ensured, hensured, hways⟩ := h.exists_ensured
  obtain ⟨handle, hopen⟩ := ensure_eq_ok hensured
  have hparents := h.sound.makeParents paths.log
  have hfirst : ensured.IsSound ∧ disk.Extends ensured :=
    ⟨hparents.openWrite? hopen,
      (Disk.Extends.makeParents disk paths.log).trans (Disk.Extends.openWrite? hparents hopen)⟩
  have hsecond := makeWays_induction
    (fun made path (hmade : made.IsSound ∧ disk.Extends made) =>
      ⟨hmade.1.makeParents path, hmade.2.trans (Disk.Extends.makeParents made path)⟩)
    [paths.registry, paths.steps] ensured hfirst
  rwa [hways] at hsecond

/-- A log that was there is followed from its start. -/
theorem content_eq (h : Ready paths layout source disk ready) {bytes : Bytes}
    (hread : disk.read? paths.log = .ok bytes) : ready.content source = bytes := by
  have hread' := h.sound_and_extends.2.read? hread
  rw [Disk.read?_of_file h.ways.log h.log] at hread'
  exact Except.ok.inj hread'

/-- Where the ways can be made, a recording can be prepared. It then has taken nothing from its log,
and its artifacts are empty. -/
theorem exists_stands_prepare (h : Ready paths layout source disk ready)
    (collision : CollisionPolicy) :
    ∃ prepared follower artifacts, prepare disk paths = (prepared, .ok (follower, artifacts))
      ∧ Stands paths layout (begin collision prepared follower artifacts) (ready.content source)
          [] [] [] := by
  obtain ⟨ensured, hensured, hways⟩ := h.exists_ensured
  obtain ⟨prepared, artifacts, hcreate, hkept, hspares⟩ :=
    Artifacts.exists_kept_create hways h.sound_and_extends.1 h.ways h.apart h.plain
  have hlog := h.ways.isApart_log h.apart
  have hfile := (hspares.at? _ hlog.notMem).trans h.log
  have hopen : Follower.open? prepared paths.log
      = .ok { path := paths.log, source := .file source } := by
    rw [Follower.open?, Disk.openRead?_of_file hkept.ways.log hfile]
  refine ⟨prepared, _, artifacts, ?_, hkept, rfl, ⟨source, rfl, hfile, ?_⟩, .start _ _ _⟩
  · simp only [prepare, hensured, hcreate, hopen]
  · exact hspares.content _ _ hlog h.log

/-- The default paths can be made in an empty directory. -/
theorem home :
    Ready {} (.within ["home".toList]) 0 (Disk.ofCurrent "home".toList)
      (makeWays (Disk.ofCurrent "home".toList) {}).1 := by
  refine ⟨.ofCurrent _, rfl, ⟨rfl, rfl, rfl, rfl, rfl, rfl, by decide⟩, ?_, rfl, ?_⟩
  · -- there is only one file
    refine Disk.areApart_of_forall_ne ["home".toList, "appium.log".toList] ?_
    intro place hplace hne
    simp only [Layout.places, List.mem_cons, List.not_mem_nil, or_false] at hplace
    rcases hplace with rfl | rfl | rfl | rfl
    · exact absurd rfl hne
    all_goals
      intro id hid
      cases hid
  intro place hplace
  simp only [Layout.written, List.mem_cons, List.not_mem_nil, or_false] at hplace
  rcases hplace with rfl | rfl | rfl <;> exact Or.inl rfl

end Ready
end StepRecorder.Recording
