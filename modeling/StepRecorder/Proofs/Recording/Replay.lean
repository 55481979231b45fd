import StepRecorder.Proofs.Recording

/-!
A recording depends on the bytes of its log alone. `Replay` goes through the lines of a log without
a disk and without a follower; a recording that has taken some lines has become what their replay
is, however the bytes of these lines arrived.

    lines taken ──────── replay ────────▶ state, counters, entries, script
         │                                  ║
    acts ▼                                  ║
    recording ─── its state, counters, registry file, script file

Main statement: `recording_eq_replay`.
-/

namespace StepRecorder

/-- What some lines come to: a state of the correlation, counters and actions. -/
structure Replay where
  state : Correlation.State
  events : Nat := 0
  bindings : Nat := 0
  actions : List Action := []

namespace Replay

/-- The replay of an event more. -/
def onEvent (conduct : Conduct) (replay : Replay) (event : Event) : Replay :=
  let effect := Correlation.step conduct.target conduct.oracle replay.state event
  { state := effect.state
    events := replay.events + 1
    bindings := replay.bindings + effect.outcome.bindings
    actions := replay.actions ++ effect.outcome.actions }

/-- The replay of a line more. -/
def onText (conduct : Conduct) (replay : Replay) (text : Text) : Replay :=
  match Event.ofLine? text with
  | some event => replay.onEvent conduct event
  | none => replay

/-- The replay of some lines. -/
def ofTexts (conduct : Conduct) (collision : CollisionPolicy) (texts : List Text) : Replay :=
  texts.foldl (onText conduct) { state := .initial collision }

/-- The replay of the complete lines of a log. -/
def ofLines (conduct : Conduct) (collision : CollisionPolicy) (lines : List Bytes) : Replay :=
  ofTexts conduct collision (lines.map Log.lineText)

/-- The entries of the registry. -/
def entries (replay : Replay) : List (Text × Text) := replay.state.registry.locators

/-- The text of the script. -/
def script (replay : Replay) : Text := replay.actions.flatMap Action.script

theorem ofLines_concat (conduct : Conduct) (collision : CollisionPolicy) (lines : List Bytes)
    (line : Bytes) :
    ofLines conduct collision (lines ++ [line])
      = (ofLines conduct collision lines).onText conduct (Log.lineText line) := by
  simp [ofLines, ofTexts]

end Replay

namespace Recording

variable {paths : Paths} {layout : Layout} {recording : Recording} {log : Bytes}
  {done : List Bytes} {replay : Replay} {conduct : Conduct}

/-- A recording that has become what a replay is. -/
structure Shows (recording : Recording) (replay : Replay) : Prop where
  sink : recording.sink = Artifacts.sink
  failure : recording.failure = none
  state : recording.recorder.state = replay.state
  events : recording.events = replay.events
  bindings : recording.bindings = replay.bindings
  actions : recording.actions = replay.actions.length

/-- An event more, in the recording and in the replay. -/
theorem Shows.onEvent (conduct : Conduct) (h : recording.Shows replay)
    (hstands : Stands paths layout recording log done replay.entries replay.script)
    (event : Event) :
    (recording.onEvent conduct event).Shows (replay.onEvent conduct event)
      ∧ Stands paths layout (recording.onEvent conduct event) log done
          (replay.onEvent conduct event).entries (replay.onEvent conduct event).script := by
  obtain ⟨hsink, hfailure, hstate, hevents, hbindings, hactions⟩ := h
  rw [Replay.entries, ← hstate] at hstands
  obtain ⟨htakes, hstands'⟩ := hstands.onEvent conduct event fun _ _ => by rw [hsink]; rfl
  have heffect : recording.effect conduct event
      = Correlation.step conduct.target conduct.oracle replay.state event := by
    rw [effect, hstate]
  have hnext : (recording.onEvent conduct event).recorder.state
      = (replay.onEvent conduct event).state := by
    rw [htakes.state, heffect]
    rfl
  have hscript : (replay.onEvent conduct event).script = replay.script
      ++ (recording.effect conduct event).outcome.actions.flatMap Action.script := by
    simp [Replay.script, Replay.onEvent, heffect]
  refine ⟨⟨htakes.sink.trans hsink, htakes.failure.trans hfailure, hnext, ?_, ?_, ?_⟩, ?_⟩
  · simp [htakes.events, hevents, Replay.onEvent]
  · simp [htakes.bindings, hbindings, heffect, Replay.onEvent]
  · simp [htakes.actions, hactions, heffect, Replay.onEvent]
  · rw [hscript, Replay.entries, ← hnext]
    exact hstands'

/-- A line more, in the recording and in the replay. -/
theorem Shows.onLine (conduct : Conduct) (h : recording.Shows replay)
    (hstands : Stands paths layout recording log done replay.entries replay.script)
    (text : Text) :
    (recording.onLine conduct text).Shows (replay.onText conduct text)
      ∧ Stands paths layout (recording.onLine conduct text) log done
          (replay.onText conduct text).entries (replay.onText conduct text).script := by
  unfold Recording.onLine Replay.onText
  cases Event.ofLine? text with
  | none => exact ⟨h, hstands⟩
  | some event => exact h.onEvent conduct hstands event

/-! ### Runs -/

/-- A recording that has taken some lines of its log, and become what their replay is. -/
structure Replays (conduct : Conduct) (collision : CollisionPolicy) (paths : Paths)
    (layout : Layout) (recording : Recording) (log : Bytes) (done : List Bytes) : Prop where
  shows : recording.Shows (.ofLines conduct collision done)
  stands : Stands paths layout recording log done (Replay.ofLines conduct collision done).entries
    (Replay.ofLines conduct collision done).script

variable {collision : CollisionPolicy}

namespace Replays

theorem append (h : Replays conduct collision paths layout recording log done) (bytes : Bytes) :
    Replays conduct collision paths layout (recording.act conduct paths.log (.append bytes))
      (log ++ bytes) done := by
  obtain ⟨hsink, hfailure, hstate, hevents, hbindings, hactions⟩ := h.shows
  exact ⟨⟨hsink, hfailure, hstate, hevents, hbindings, hactions⟩,
    h.stands.append conduct bytes⟩

/-- Looking for a line while the next one is complete. -/
theorem advance_line (h : Replays conduct collision paths layout recording log done)
    {line : Bytes} (hline : (Log.split log).1[done.length]? = some line) :
    ∃ next, recording.advance conduct = (next, true)
      ∧ Replays conduct collision paths layout next log (done ++ [line]) := by
  obtain ⟨follower, hadvance, hstands⟩ :=
    h.stands.advance_line conduct h.shows.failure hline
  obtain ⟨hsink, hfailure, hstate, hevents, hbindings, hactions⟩ := h.shows
  have hshows : Shows { recording with follower } (.ofLines conduct collision done) :=
    ⟨hsink, hfailure, hstate, hevents, hbindings, hactions⟩
  obtain ⟨hshows', hstands'⟩ :=
    hshows.onLine conduct hstands (Log.lineText line)
  rw [← Replay.ofLines_concat] at hshows' hstands'
  exact ⟨_, hadvance, hshows', hstands'⟩

/-- Looking for a line while none is complete. -/
theorem advance_rest (h : Replays conduct collision paths layout recording log done)
    (hline : (Log.split log).1[done.length]? = none) :
    ∃ next, recording.advance conduct = (next, false)
      ∧ Replays conduct collision paths layout next log done := by
  obtain ⟨follower, hadvance, hstands⟩ :=
    h.stands.advance_rest conduct h.shows.failure hline
  obtain ⟨hsink, hfailure, hstate, hevents, hbindings, hactions⟩ := h.shows
  exact ⟨_, hadvance, ⟨hsink, hfailure, hstate, hevents, hbindings, hactions⟩, hstands⟩

theorem advance (h : Replays conduct collision paths layout recording log done) :
    ∃ more, Replays conduct collision paths layout (recording.advance conduct).1 log more := by
  cases hline : (Log.split log).1[done.length]? with
  | some line =>
    obtain ⟨next, hadvance, hnext⟩ := h.advance_line hline
    rw [hadvance]
    exact ⟨_, hnext⟩
  | none =>
    obtain ⟨next, hadvance, hnext⟩ := h.advance_rest hline
    rw [hadvance]
    exact ⟨_, hnext⟩

theorem run (h : Replays conduct collision paths layout recording log done) (acts : List Act) :
    ∃ more, Replays conduct collision paths layout (recording.run conduct paths.log acts)
      (log ++ acts.flatMap Act.bytes) more := by
  refine run_induction (motive := fun recording log =>
    ∃ done, Replays conduct collision paths layout recording log done) ?_ ?_ ⟨done, h⟩ acts
  · rintro recording log bytes ⟨done, h⟩
    exact ⟨done, h.append bytes⟩
  · rintro recording log ⟨done, h⟩
    exact h.advance

/-- The lines taken are the first ones of the log. -/
theorem take_eq (h : Replays conduct collision paths layout recording log done) :
    (Log.split log).1.take done.length = done := by
  rw [← h.stands.follows.linesRead]
  exact h.stands.follows.take_eq

/-- With the time for them, all complete lines are taken. -/
theorem advanceUpTo (h : Replays conduct collision paths layout recording log done) (limit : Nat)
    (hlimit : (Log.split log).1.length ≤ done.length + limit) :
    Replays conduct collision paths layout (recording.advanceUpTo conduct limit) log
      (Log.split log).1 := by
  induction limit generalizing recording done with
  | zero =>
    have hall : (Log.split log).1 = done := by
      rw [← h.take_eq, List.take_of_length_le (by omega)]
    rw [hall]
    exact h
  | succ limit ih =>
    cases hline : (Log.split log).1[done.length]? with
    | some line =>
      obtain ⟨next, hadvance, hnext⟩ := h.advance_line hline
      simp only [Recording.advanceUpTo, hadvance]
      refine ih hnext ?_
      simp only [List.length_append, List.length_singleton]
      omega
    | none =>
      obtain ⟨next, hadvance, hnext⟩ := h.advance_rest hline
      simp only [Recording.advanceUpTo, hadvance]
      have hall : (Log.split log).1 = done := by
        rw [← h.take_eq, List.take_of_length_le (List.getElem?_eq_none_iff.mp hline)]
      rw [hall]
      exact hnext

/-- As many lines can follow as a recording is given the time for. -/
theorem length_split_le (h : Replays conduct collision paths layout recording log done) :
    (Log.split log).1.length ≤ done.length + recording.lineLimit := by
  have hrest := Log.length_split_append_le h.stands.follows.held_free
    (recording.follower.fetched ++ log.drop recording.follower.position)
  have hremaining : recording.remaining
      = (recording.follower.fetched ++ log.drop recording.follower.position).length := by
    simp [remaining, h.stands.source_content]
  have hsquare : recording.remaining ≤ recording.lineLimit := by
    exact Nat.le_trans (Nat.le_succ _) (Nat.le_mul_self _)
  rw [h.stands.follows.split_eq, List.length_append]
  unfold Follower.Follows.rest
  omega

theorem settle (h : Replays conduct collision paths layout recording log done) :
    Replays conduct collision paths layout (recording.settle conduct) log (Log.split log).1 :=
  h.advanceUpTo _ h.length_split_le

end Replays

/-- What a recording ends with, once it was told to stop. -/
theorem Replays.finish (h : Replays conduct collision paths layout recording log done) :
    let replay := Replay.ofLines conduct collision done
    recording.finish.result
        = .ok ⟨done.length, replay.events, replay.bindings, replay.actions.length⟩
      ∧ recording.finish.disk = recording.disk := by
  obtain ⟨⟨hsink, hfailure, -, hevents, hbindings, hactions⟩, hstands⟩ := h
  have hflush : recording.sink.flush recording.recorder.store
      = ⟨recording.recorder.store, .ok (), []⟩ := by
    simp [hsink, Artifacts.sink, hstands.kept.synced]
  simp [Recording.finish, hfailure, hflush, hevents, hbindings, hactions, Recording.disk,
    hstands.follows.linesRead]

/-- A recording depends only on the bytes of its log. However these arrive, and however often the
recording looks for lines in between: once it has taken what is complete and is told to stop, its
summary, its files and its questions to the oracle are those of the replay of the complete lines.
A log that was there at the start counts from its first byte. -/
theorem recording_eq_replay {disk ready : Disk} {source : Nat}
    (h : Ready paths layout source disk ready) (conduct : Conduct) (collision : CollisionPolicy) :
    (∀ bytes, disk.read? paths.log = .ok bytes → ready.content source = bytes)
    ∧ ∃ prepared follower artifacts, prepare disk paths = (prepared, .ok (follower, artifacts))
      ∧ ∀ acts : List Act,
        let recording := ((begin collision prepared follower artifacts).run conduct paths.log
          acts).settle conduct
        let log := ready.content source ++ acts.flatMap Act.bytes
        let lines := (Log.split log).1.map Log.lineText
        let replay := Replay.ofTexts conduct collision lines
        recording.finish.result
            = .ok ⟨lines.length, replay.events, replay.bindings, replay.actions.length⟩
        ∧ recording.finish.disk.read? paths.log = .ok log
        ∧ recording.finish.disk.read? paths.steps = .ok (Text.encode replay.script)
        ∧ recording.finish.disk.read? paths.registry
            = .ok (Text.encode (Registry.render replay.entries))
        ∧ recording.recorder.state.asked = replay.state.asked := by
  refine ⟨fun bytes hread => h.content_eq hread, ?_⟩
  obtain ⟨prepared, follower, artifacts, hprepare, hstands⟩ := h.exists_stands_prepare collision
  refine ⟨prepared, follower, artifacts, hprepare, ?_⟩
  intro acts recording log lines replay
  have hstart : Replays conduct collision paths layout
      (begin collision prepared follower artifacts) (ready.content source) [] :=
    ⟨⟨rfl, rfl, rfl, rfl, rfl, rfl⟩, hstands⟩
  obtain ⟨done, hrun⟩ := hstart.run acts
  have hsettle : Replays conduct collision paths layout recording log (Log.split log).1 :=
    hrun.settle
  obtain ⟨hresult, hdisk⟩ := hsettle.finish
  rw [hdisk]
  refine ⟨?_, hsettle.stands.read?_log, hsettle.stands.kept.read?_steps,
    hsettle.stands.kept.read?_registry, congrArg _ hsettle.shows.state⟩
  simpa [lines, replay, Replay.ofLines] using hresult

/-- A log that arrives in two pieces, the first of which ends within a character. -/
theorem replay_of_cut_log :
    let disk := Disk.ofCurrent "home".toList
    let log := Text.encode
      "\"value\":\"//a[@name='é']\"\n\"ELEMENT\":\"1\"\r\n/element/1/click\n".toList
    let conduct : Conduct := ⟨.oneShot, Oracle.offline⟩
    ∃ ready, Ready {} (.within ["home".toList]) 0 disk ready
      ∧ ∃ prepared follower artifacts, prepare disk {} = (prepared, .ok (follower, artifacts))
        ∧ (((begin .suffix prepared follower artifacts).run conduct "appium.log".toList
            [.append (log.take 21), .poll, .append (log.drop 21), .poll]).settle
              conduct).finish.disk.read? "steps.txt".toList
          = .ok (Text.encode "Tap on é\nWait for 2\n".toList) := by
  intro disk log conduct
  obtain ⟨-, prepared, follower, artifacts, hprepare, hacts⟩ :=
    recording_eq_replay Ready.home conduct .suffix
  refine ⟨_, Ready.home, prepared, follower, artifacts, hprepare, ?_⟩
  refine (hacts [.append (log.take 21), .poll, .append (log.drop 21), .poll]).2.2.1.trans ?_
  decide +kernel

end Recording
end StepRecorder
