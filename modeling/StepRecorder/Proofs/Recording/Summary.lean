import StepRecorder.Proofs.Recording.Check

/-!
The summary of a recording agrees with its artifacts. Whoever follows the log may have taken lines
before the recording begins:

    log        line 1 ... line k │ line k+1 ... line k+n │ ...
               taken ahead         taken by the recording

The summary counts all `k + n` lines, but only the events, bindings and actions of the last `n`.
What it counts is what was written: a snapshot of the registry for each binding, two lines of the
script for each action.

Main statement: `summary_agrees_with_artifacts`.
-/

namespace StepRecorder.Recording

variable {paths : Paths} {layout : Layout} {sink : Sink Artifacts.Store} {recording : Recording}
  {log : Bytes} {done : List Bytes} {collision : CollisionPolicy} (conduct : Conduct)

/-- The recording after an act before it has begun: a line is taken, but not processed. -/
def actAhead (log : Text) (recording : Recording) : Act → Recording
  | .append bytes => recording.act conduct log (.append bytes)
  | .poll =>
    { recording with follower := (recording.follower.next recording.disk false).1 }

/-- The recording after some acts before it has begun. -/
def runAhead (log : Text) (recording : Recording) (acts : List Act) : Recording :=
  acts.foldl (actAhead conduct log) recording

/-- Taking a line without processing it. -/
theorem Stands.actAhead {entries : List (Text × Text)} {script : Text}
    (h : Stands paths layout recording log done entries script) (act : Act) :
    ∃ done, Stands paths layout (recording.actAhead conduct paths.log act) (log ++ act.bytes) done
      entries script := by
  cases act with
  | append bytes => exact ⟨done, h.append conduct bytes⟩
  | poll =>
    simp only [Recording.actAhead, Act.bytes, List.append_nil]
    obtain ⟨id, hid, hfile⟩ := h.source
    cases hline : (Log.split log).1[recording.follower.linesRead]? with
    | some line =>
      obtain ⟨next, hnext, hfollows, hpath, hsource⟩ :=
        h.follows.next_line h.source_content hline
      rw [hnext]
      exact ⟨_, h.kept, hpath.trans h.path, ⟨id, hsource.trans hid, hfile⟩, hfollows⟩
    | none =>
      obtain ⟨next, hnext, hfollows, hpath, hsource⟩ :=
        h.follows.next_rest h.source_content hline
      rw [hnext]
      exact ⟨_, h.kept, hpath.trans h.path, ⟨id, hsource.trans hid, hfile⟩, hfollows⟩

/-- A recording that has not begun: lines may have been taken, but nothing was processed. -/
structure Fresh (paths : Paths) (layout : Layout) (collision : CollisionPolicy)
    (recording : Recording) (log : Bytes) (done : List Bytes) : Prop where
  stands : Stands paths layout recording log done [] []
  sink : MayRefuse paths layout recording.sink
  unfailed : recording.failure = none
  state : recording.recorder.state = .initial collision
  events : recording.events = 0
  bindings : recording.bindings = 0
  actions : recording.actions = 0

namespace Fresh

theorem actAhead (h : Fresh paths layout collision recording log done) (act : Act) :
    ∃ done, Fresh paths layout collision (recording.actAhead conduct paths.log act)
      (log ++ act.bytes) done := by
  obtain ⟨hstands, hsink, hfailure, hstate, hevents, hbindings, hactions⟩ := h
  obtain ⟨done, hahead⟩ := hstands.actAhead conduct act
  cases act with
  | append bytes =>
    exact ⟨done, hahead, hsink, hfailure, hstate, hevents, hbindings, hactions⟩
  | poll => exact ⟨done, hahead, hsink, hfailure, hstate, hevents, hbindings, hactions⟩

theorem runAhead (h : Fresh paths layout collision recording log done) (acts : List Act) :
    ∃ done, Fresh paths layout collision (recording.runAhead conduct paths.log acts)
      (log ++ acts.flatMap Act.bytes) done := by
  induction acts generalizing recording log done with
  | nil => exact ⟨done, by simpa [Recording.runAhead] using h⟩
  | cons act acts ih =>
    obtain ⟨done, hact⟩ := h.actAhead conduct act
    simpa [Recording.runAhead] using ih hact

theorem passes (h : Fresh paths layout collision recording log done) :
    Passes paths layout recording log done [] [] := by
  refine ⟨h.stands, h.sink, h.actions, List.nodup_nil, nofun, ?_⟩
  intro _
  rw [h.state]
  exact ⟨rfl, .initial collision⟩

end Fresh

/-- A recording that ends normally has not failed, and tells its counters. -/
theorem of_finish_eq_ok {summary : Summary} (h : recording.finish.result = .ok summary) :
    recording.failure = none
      ∧ summary = ⟨recording.follower.linesRead, recording.events, recording.bindings,
          recording.actions⟩ := by
  unfold finish at h
  cases hfailure : recording.failure with
  | some failure =>
    rw [hfailure] at h
    cases h
  | none =>
    rw [hfailure] at h
    dsimp only at h
    cases hflush : (recording.sink.flush recording.recorder.store).result with
    | error failure =>
      rw [hflush] at h
      cases h
    | ok _ =>
      rw [hflush] at h
      exact ⟨rfl, (Except.ok.inj h).symm⟩

/-- A summary that counts `before` lines and those that were taken, and of the latter what came of
them: the events they show, and what was written for these. -/
structure Counts (before : Nat) (taken : List Taken) (registry : Registry) (summary : Summary) :
    Prop where
  lines : summary.lines = before + taken.length
  events : summary.events = (eventsIn taken).length
  registered : summary.bindings = registry.bindings
  bindings : summary.bindings = (snapshotsIn taken).length
  actions : summary.actions = (actionsIn taken).length
  writes_le : summary.bindings + summary.actions ≤ summary.events

/-- The summary of a recording that has processed nothing before, on any disk and with any sink. -/
theorem counts_run {path : Text} {acts : List Act} {summary : Summary}
    (hstate : recording.recorder.state = .initial collision) (hevents : recording.events = 0)
    (hbindings : recording.bindings = 0) (hactions : recording.actions = 0)
    (hsummary : (recording.run conduct path acts).finish.result = .ok summary) :
    Counts recording.follower.linesRead (trace conduct path recording acts)
        (recording.run conduct path acts).recorder.state.registry summary
      ∧ (recording.run conduct path acts).recorder.state.registry.size ≤ summary.bindings := by
  obtain ⟨hfailure, rfl⟩ := of_finish_eq_ok hsummary
  have haccounts := accounts_run conduct path recording acts
  have hregistry := (haccounts.unfailed hfailure).2
  have hsize := haccounts.size_le
  have hall := haccounts.bindings
  rw [hstate] at hregistry hsize
  change _ = 0 + _ at hregistry
  change _ + 0 ≤ 0 + _ at hsize
  rw [Nat.zero_add] at hregistry hsize
  rw [hbindings, Nat.zero_add] at hall
  have hwritten := haccounts.actions
  have hshown := haccounts.events
  rw [hactions, Nat.zero_add] at hwritten
  rw [hevents, Nat.zero_add] at hshown
  refine ⟨⟨haccounts.lines, hshown, hall.trans hregistry.symm, hall, hwritten, ?_⟩, ?_⟩
  · dsimp only
    rw [hall, hwritten, hshown]
    exact haccounts.writes_le
  · dsimp only
    rw [hall, ← hregistry]
    exact hsize

/-- The summary of a recording that ends normally agrees with what it took from its log and what it
wrote, on any disk and with any sink; and where its paths lead to different plain places, with its
artifacts, whatever lines were taken before it began. -/
theorem summary_agrees_with_artifacts (conduct : Conduct) (collision : CollisionPolicy)
    (sink : Sink Artifacts.Store) :
    (∀ (disk : Disk) (follower : Follower) (artifacts : Artifacts) (path : Text) (acts : List Act)
        (summary : Summary),
      let start : Recording := { begin collision disk follower artifacts with sink }
      let recording := start.run conduct path acts
      recording.finish.result = .ok summary →
        Counts follower.linesRead (trace conduct path start acts)
          recording.recorder.state.registry summary)
    ∧ ∀ {paths : Paths} {layout : Layout} {source : Nat} {disk ready : Disk},
      Ready paths layout source disk ready → MayRefuse paths layout sink →
      ∃ prepared follower artifacts, prepare disk paths = (prepared, .ok (follower, artifacts))
        ∧ ∀ (ahead acts : List Act) (summary : Summary),
          let start := runAhead conduct paths.log
            { begin collision prepared follower artifacts with sink } ahead
          let recording := start.run conduct paths.log acts
          let taken := trace conduct paths.log start acts
          let log := ready.content source ++ ahead.flatMap Act.bytes ++ acts.flatMap Act.bytes
          let before := start.follower.linesRead
          recording.finish.result = .ok summary →
            Counts before taken recording.recorder.state.registry summary
            ∧ taken.map (·.text)
                = (((Log.split log).1.drop before).take taken.length).map Log.lineText
            ∧ (∃ script, recording.finish.disk.read? paths.steps = .ok (Text.encode script)
                ∧ (Text.lines script).length = 2 * summary.actions)
            ∧ ∃ text entries, recording.finish.disk.read? paths.registry = .ok (Text.encode text)
                ∧ Registry.ofText? text = some entries ∧ entries.length ≤ summary.bindings := by
  constructor
  · intro disk follower artifacts path acts summary start recording hsummary
    exact (counts_run conduct rfl rfl rfl rfl hsummary).1
  intro paths layout source disk ready h hsink
  obtain ⟨prepared, follower, artifacts, hprepare, hstands⟩ := h.exists_stands_prepare collision
  refine ⟨prepared, follower, artifacts, hprepare, ?_⟩
  intro ahead acts summary start recording taken log before hsummary
  have hfresh : Fresh paths layout collision
      { begin collision prepared follower artifacts with sink } (ready.content source) [] :=
    ⟨hstands.congr rfl rfl, hsink, rfl, rfl, rfl, rfl, rfl⟩
  obtain ⟨done, hstart⟩ := hfresh.runAhead conduct ahead
  obtain ⟨lines, entries, actions, hpasses, htexts⟩ := hstart.passes.run_trace conduct acts
  obtain ⟨hcounts, hsize⟩ :=
    counts_run conduct hstart.state hstart.events hstart.bindings hstart.actions hsummary
  obtain ⟨hfailure, rfl⟩ := of_finish_eq_ok hsummary
  obtain ⟨store, hdisk, hkept⟩ := hpasses.kept_finish
  obtain ⟨rfl, -⟩ := hpasses.current hfailure
  refine ⟨hcounts, ?texts, ?steps, ?registry⟩
  case texts =>
    have htaken : lines.length = taken.length := by
      simpa using (congrArg List.length htexts).symm
    have hlines := hpasses.stands.follows.drop_take_eq
    rw [← hstart.stands.follows.linesRead, htaken] at hlines
    rw [htexts, hlines]
  case steps =>
    refine ⟨_, hdisk ▸ hkept.read?_steps, ?_⟩
    rw [Script.lines_script fun action haction => (hpasses.legible action haction).1,
      Script.length_lines, hpasses.counted]
  case registry =>
    exact ⟨_, _, hdisk ▸ hkept.read?_registry, Registry.ofText?_render hpasses.distinct, hsize⟩

/-- A recording that begins behind the first of six lines. The last line is not complete, and the
click on an element that is not known is an event, but no action. -/
theorem summary_of_late_start :
    let disk := Disk.ofCurrent "home".toList
    let layout : Layout := .within ["home".toList]
    let log := Text.encode ("session\n\"value\":\"//a[@name='Ok']\"\n\"ELEMENT\":\"1\"\n"
      ++ "/element/1/click\n/element/2/click\n/element/1/cl").toList
    let conduct : Conduct := ⟨.oneShot, Oracle.offline⟩
    let ahead : List Act := [.append log, .poll]
    let acts : List Act := [.poll, .poll, .poll, .poll, .poll]
    ∃ ready, Ready {} layout 0 disk ready ∧ MayRefuse {} layout Artifacts.sink
      ∧ ∃ prepared follower artifacts, prepare disk {} = (prepared, .ok (follower, artifacts))
        ∧ let start := runAhead conduct "appium.log".toList
            (begin .suffix prepared follower artifacts) ahead
          let finished := (start.run conduct "appium.log".toList acts).finish
          finished.result = .ok ⟨5, 4, 1, 1⟩
          ∧ ∃ script, finished.disk.read? "steps.txt".toList = .ok (Text.encode script)
            ∧ (Text.lines script).length = 2 := by
  intro disk layout log conduct ahead acts
  obtain ⟨prepared, follower, artifacts, hprepare, hacts⟩ :=
    (summary_agrees_with_artifacts conduct .suffix Artifacts.sink).2 Ready.home
      (mayRefuse_sink {} layout)
  refine ⟨_, Ready.home, mayRefuse_sink {} layout, prepared, follower, artifacts, hprepare, ?_⟩
  have hresult : ((prepare disk {}).2.toOption.map fun made =>
      ((runAhead conduct "appium.log".toList
        (begin .suffix (prepare disk {}).1 made.1 made.2) ahead).run conduct "appium.log".toList
          acts).finish.result.toOption) = some (some ⟨5, 4, 1, 1⟩) := by
    decide +kernel
  rw [hprepare] at hresult
  have hok : ((runAhead conduct "appium.log".toList (begin .suffix prepared follower artifacts)
      ahead).run conduct "appium.log".toList acts).finish.result = .ok ⟨5, 4, 1, 1⟩ := by
    replace hresult := Option.some.inj hresult
    dsimp only at hresult
    cases hfinish : ((runAhead conduct "appium.log".toList (begin .suffix prepared follower
        artifacts) ahead).run conduct "appium.log".toList acts).finish.result with
    | ok summary =>
      rw [hfinish] at hresult
      exact congrArg _ (Option.some.inj hresult)
    | error failure =>
      rw [hfinish] at hresult
      cases hresult
  exact ⟨hok, (hacts ahead acts _ hok).2.2.1⟩

end StepRecorder.Recording
