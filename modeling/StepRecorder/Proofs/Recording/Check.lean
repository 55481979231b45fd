import StepRecorder.Proofs.Correlation.Named
import StepRecorder.Proofs.Event
import StepRecorder.Proofs.Recording.Trace
import StepRecorder.Proofs.Registry.Json
import StepRecorder.Proofs.Script
import StepRecorder.Proofs.Text.Utf8
import StepRecorder.Script.Check.Files

/-!
The artifacts of a recording pass the check of a script, at any time. A name is a key of the
registry file before it gets into the script, and keys are never removed:

    element   registry file ─▶ with a new key
    click     script        ─▶ with an action on a key that the file has

A write that fails ends the recording. The file then has fewer keys than the registry, but no
action refers to those that are missing.

Main statement: `output_passes_check`.
-/

namespace StepRecorder

/-- Two artifacts that fit together pass the check. -/
theorem Artifacts.Kept.checkFiles {paths : Paths} {layout : Layout} {store : Store}
    {entries : List (Text × Text)} {actions : List Action}
    (h : Kept paths layout store entries (actions.flatMap Action.script))
    (hdistinct : (Ordered.keys entries).Nodup)
    (hlegible : ∀ action ∈ actions, action.IsLegible)
    (hkeys : ∀ action ∈ actions, action.target ∈ Ordered.keys entries) :
    Script.checkFiles store.disk paths.registry paths.steps
      = .ok ⟨2 * actions.length, []⟩ := by
  have hregistry : Script.textOf paths.registry (.ofDisk store.disk paths.registry)
      = .ok (Registry.render entries) := by
    simp [Script.textOf, Reading.text?, Reading.ofDisk, h.read?_registry, Text.decode?_encode]
  have hsteps : Script.textOf paths.steps (.ofDisk store.disk paths.steps)
      = .ok (actions.flatMap Action.script) := by
    simp [Script.textOf, Reading.text?, Reading.ofDisk, h.read?_steps, Text.decode?_encode]
  have hcheck := Script.check_script (Registry.ofText?_render hdistinct) hlegible hkeys
  simp only [Script.checkFiles, Script.checkReadings, hregistry, hsteps, hcheck]

namespace Recording

variable {paths : Paths} {layout : Layout} {recording : Recording} {log : Bytes}
  {done : List Bytes} {entries : List (Text × Text)} {script : Text} {actions : List Action}
  {store next : Artifacts.Store} {sink : Sink Artifacts.Store} (conduct : Conduct)

/-! ### Sinks that refuse -/

/-- A store with the same artifacts as another one. At most the temporary file is not the same. -/
structure Leaves (layout : Layout) (store next : Artifacts.Store) : Prop where
  artifacts : next.artifacts = store.artifacts
  sound : next.disk.IsSound
  temporary : next.disk.IsPlain layout.temporary
  spares : store.disk.Spares [layout.temporary] next.disk

/-- A sink that carries out a write as the artifacts do, or fails and stores nothing. -/
structure MayRefuse (paths : Paths) (layout : Layout) (sink : Sink Artifacts.Store) : Prop where
  perform : ∀ {store : Artifacts.Store} {entries : List (Text × Text)} {script : Text},
    Artifacts.Kept paths layout store entries script → ∀ write,
      Accepts sink store write
      ∨ (∃ failure, (sink.perform store write).result = .error failure)
        ∧ Leaves layout store (sink.perform store write).store
  flush : ∀ {store : Artifacts.Store} {entries : List (Text × Text)} {script : Text},
    Artifacts.Kept paths layout store entries script → Leaves layout store (sink.flush store).store

theorem Leaves.refl (h : Artifacts.Kept paths layout store entries script) :
    Leaves layout store store :=
  ⟨rfl, h.sound, h.temporary, .refl _ _⟩

theorem Leaves.kept (h : Artifacts.Kept paths layout store entries script)
    (hleaves : Leaves layout store next) : Artifacts.Kept paths layout next entries script := by
  obtain ⟨hartifacts, hsound, htemporary, hspares⟩ := hleaves
  obtain ⟨-, -, -, hregistry, -, hsteps⟩ := h.ways.apart
  obtain ⟨disk, artifacts⟩ := next
  obtain rfl : artifacts = store.artifacts := hartifacts
  exact h.spares hsound htemporary hspares (by simp [Layout.places]) hregistry (Ne.symm hsteps)

/-- The artifacts refuse nothing. -/
theorem mayRefuse_sink (paths : Paths) (layout : Layout) :
    MayRefuse paths layout Artifacts.sink :=
  ⟨fun _ _ => Or.inl rfl, fun h => .refl h⟩

/-! ### Steps -/

/-- A recording whose artifacts pass the check: the script is that of the actions so far, each of
which can be read back and refers to a key of the registry file. While nothing has failed, this file
holds the registry. -/
structure Passes (paths : Paths) (layout : Layout) (recording : Recording) (log : Bytes)
    (done : List Bytes) (entries : List (Text × Text)) (actions : List Action) : Prop where
  stands : Stands paths layout recording log done entries (actions.flatMap Action.script)
  sink : MayRefuse paths layout recording.sink
  counted : recording.actions = actions.length
  distinct : (Ordered.keys entries).Nodup
  legible : ∀ action ∈ actions, action.IsLegible ∧ action.target ∈ Ordered.keys entries
  current : recording.failure = none →
    entries = recording.recorder.state.registry.locators
      ∧ Correlation.Named recording.recorder.state

/-- A refused write ends a recording, and leaves what its artifacts hold. -/
theorem Stands.onEvent_of_refused
    (h : Stands paths layout recording log done entries script) {event : Event}
    {write : Correlation.Write} {failure : Failure}
    (hwrite : (recording.effect conduct event).write = some write)
    (hrefused : (recording.sink.perform recording.recorder.store write).result = .error failure)
    (hleaves : Leaves layout recording.recorder.store
      (recording.sink.perform recording.recorder.store write).store) :
    (recording.onEvent conduct event).failure = some failure
      ∧ (recording.onEvent conduct event).sink = recording.sink
      ∧ (recording.onEvent conduct event).actions = recording.actions
      ∧ Stands paths layout (recording.onEvent conduct event) log done entries script := by
  obtain ⟨hrecorder, hresult⟩ :=
    Recorder.process_of_write_some conduct recording.sink hwrite
  rw [hrefused] at hresult
  have hspares : recording.disk.Spares layout.written
      (recording.sink.perform recording.recorder.store write).store.disk :=
    hleaves.spares.mono (by simp [Layout.written])
  have hstands : Stands paths layout
      { recording with recorder :=
          (recording.recorder.process recording.sink conduct event).recorder }
      log done entries script := by
    refine h.onStore ?_ ?_
    · rw [hrecorder]
      exact hleaves.kept h.kept
    · rw [hrecorder]
      exact hspares
  simp only [Recording.onEvent, hresult, Except.map, true_and]
  exact hstands.congr rfl rfl

namespace Passes

theorem append (h : Passes paths layout recording log done entries actions) (bytes : Bytes) :
    Passes paths layout (recording.act conduct paths.log (.append bytes)) (log ++ bytes) done
      entries actions := by
  obtain ⟨hstands, hsink, hcounted, hdistinct, hlegible, hcurrent⟩ := h
  exact ⟨hstands.append conduct bytes, hsink, hcounted, hdistinct, hlegible, hcurrent⟩

/-- An event that is accepted. -/
theorem onEvent_of_accepts (h : Passes paths layout recording log done entries actions)
    (hfailure : recording.failure = none) {event : Event} (hpayload : event.payload ≠ [])
    (haccepts : ∀ write ∈ (recording.effect conduct event).write,
      Accepts recording.sink recording.recorder.store write) :
    let outcome := (recording.effect conduct event).outcome
    let next := recording.onEvent conduct event
    Passes paths layout next log done next.recorder.state.registry.locators
      (actions ++ outcome.actions) := by
  intro outcome next
  obtain ⟨hstands, hsink, hcounted, -, hlegible, hcurrent⟩ := h
  obtain ⟨rfl, hnamed⟩ := hcurrent hfailure
  obtain ⟨htakes, hstands'⟩ := hstands.onEvent conduct event haccepts
  have hstep : Correlation.Transition conduct.target conduct.oracle recording.recorder.state event
      next.recorder.state outcome (recording.effect conduct event).write := by
    rw [htakes.state]
    exact Correlation.transition_step _ _ _ _
  have hkeys := Correlation.keys_subset hstep
  refine ⟨?_, htakes.sink ▸ hsink, ?_, (hnamed.step hstep).distinct, ?_,
    fun _ => ⟨rfl, hnamed.step hstep⟩⟩
  · rw [List.flatMap_append]
    exact hstands'
  · rw [htakes.actions, hcounted, List.length_append]
  · intro action haction
    rcases List.mem_append.mp haction with hold | hnew
    · exact (hlegible action hold).imp_right fun hkey => hkeys hkey
    · exact (hnamed.legible hpayload hstep action hnew).imp_right fun hkey => hkeys hkey

/-- An event, whether it is accepted or not. -/
theorem onEvent (h : Passes paths layout recording log done entries actions)
    (hfailure : recording.failure = none) {event : Event} (hpayload : event.payload ≠ []) :
    ∃ entries actions,
      Passes paths layout (recording.onEvent conduct event) log done entries actions := by
  cases hwrite : (recording.effect conduct event).write with
  | none =>
    refine ⟨_, _, h.onEvent_of_accepts conduct hfailure hpayload ?_⟩
    intro write hsome
    cases hwrite.symm.trans hsome
  | some write =>
    rcases h.sink.perform h.stands.kept write with haccepts | ⟨⟨failure, hrefused⟩, hleaves⟩
    · refine ⟨_, _, h.onEvent_of_accepts conduct hfailure hpayload ?_⟩
      intro other hother
      obtain rfl := Option.some.inj (hwrite.symm.trans hother)
      exact haccepts
    · obtain ⟨hfailed, hsink, hactions, hstands⟩ :=
        h.stands.onEvent_of_refused conduct hwrite hrefused hleaves
      refine ⟨entries, actions, hstands, hsink ▸ h.sink, hactions.trans h.counted, h.distinct,
        h.legible, ?_⟩
      intro hnone
      cases hnone.symm.trans hfailed

theorem onLine (h : Passes paths layout recording log done entries actions)
    (hfailure : recording.failure = none) (text : Text) :
    ∃ entries actions,
      Passes paths layout (recording.onLine conduct text) log done entries actions := by
  unfold Recording.onLine
  cases hevent : Event.ofLine? text with
  | none => exact ⟨entries, actions, h⟩
  | some event => exact h.onEvent conduct hfailure (Event.payload_ne_nil hevent)

/-- Looking for a line takes the next one of the log, if that is complete. A recording that has
failed does not do so. -/
theorem advance (h : Passes paths layout recording log done entries actions) :
    ∃ lines entries actions,
      Passes paths layout (recording.advance conduct).1 log (done ++ lines) entries actions
        ∧ recording.nextText?.toList = lines.map Log.lineText := by
  cases hfailure : recording.failure with
  | some failure =>
    have hadvance : recording.advance conduct = (recording, false) := by
      simp [Recording.advance, hfailure]
    rw [hadvance]
    exact ⟨[], entries, actions, by rwa [List.append_nil], by simp [nextText?, hfailure]⟩
  | none =>
    have hfollowing : ∀ {follower done}, Stands paths layout { recording with follower } log done
        entries (actions.flatMap Action.script) →
        Passes paths layout { recording with follower } log done entries actions :=
      fun hstands => ⟨hstands, h.sink, h.counted, h.distinct, h.legible, h.current⟩
    have htext := h.stands.nextText?_eq hfailure
    cases hline : (Log.split log).1[done.length]? with
    | some line =>
      obtain ⟨follower, hadvance, hstands⟩ := h.stands.advance_line conduct hfailure hline
      obtain ⟨entries, actions, hnext⟩ :=
        (hfollowing hstands).onLine conduct hfailure (Log.lineText line)
      rw [hadvance]
      exact ⟨[line], entries, actions, hnext, by rw [htext, hline]; rfl⟩
    | none =>
      obtain ⟨follower, hadvance, hstands⟩ := h.stands.advance_rest conduct hfailure hline
      rw [hadvance]
      refine ⟨[], entries, actions, ?_, by rw [htext, hline]; rfl⟩
      rw [List.append_nil]
      exact hfollowing hstands

/-- A run takes the next lines of its log, in order. -/
theorem run_trace (h : Passes paths layout recording log done entries actions) (acts : List Act) :
    ∃ lines entries actions,
      Passes paths layout (recording.run conduct paths.log acts) (log ++ acts.flatMap Act.bytes)
        (done ++ lines) entries actions
      ∧ (trace conduct paths.log recording acts).map (·.text) = lines.map Log.lineText := by
  induction acts generalizing recording log done entries actions with
  | nil => exact ⟨[], entries, actions, by simpa [Recording.run] using h, rfl⟩
  | cons act acts ih =>
    cases act with
    | append bytes =>
      obtain ⟨lines, entries, actions, hrun, htexts⟩ := ih (h.append conduct bytes)
      exact ⟨lines, entries, actions, by simpa [Recording.run, Act.bytes] using hrun, htexts⟩
    | poll =>
      obtain ⟨first, _, _, hnext, hfirst⟩ := h.advance conduct
      change Passes paths layout (recording.act conduct paths.log .poll) log _ _ _ at hnext
      obtain ⟨lines, entries, actions, hrun, htexts⟩ := ih hnext
      refine ⟨first ++ lines, entries, actions, ?_, ?_⟩
      · simpa [Recording.run, Act.bytes] using hrun
      · rw [trace, List.map_append, htexts, texts_taken?, hfirst, List.map_append]

theorem run (h : Passes paths layout recording log done entries actions) (acts : List Act) :
    ∃ done entries actions,
      Passes paths layout (recording.run conduct paths.log acts) (log ++ acts.flatMap Act.bytes)
        done entries actions := by
  obtain ⟨lines, entries, actions, hrun, -⟩ := h.run_trace conduct acts
  exact ⟨_, entries, actions, hrun⟩

/-- What a store that holds the same artifacts comes to in the check. -/
theorem checkFiles_of_kept (h : Passes paths layout recording log done entries actions)
    (hkept : Artifacts.Kept paths layout store entries (actions.flatMap Action.script)) :
    Script.checkFiles store.disk paths.registry paths.steps
      = .ok ⟨2 * recording.actions, []⟩ := by
  rw [h.counted]
  exact hkept.checkFiles h.distinct (fun action haction => (h.legible action haction).1)
    fun action haction => (h.legible action haction).2

theorem checkFiles (h : Passes paths layout recording log done entries actions) :
    Script.checkFiles recording.disk paths.registry paths.steps
      = .ok ⟨2 * recording.actions, []⟩ :=
  h.checkFiles_of_kept h.stands.kept

/-- The end of a recording leaves its artifacts as they are, whether or not flushing succeeds. -/
theorem kept_finish (h : Passes paths layout recording log done entries actions) :
    ∃ store : Artifacts.Store, recording.finish.disk = store.disk
      ∧ Artifacts.Kept paths layout store entries (actions.flatMap Action.script) := by
  cases hfailure : recording.failure with
  | some failure =>
    have hdisk : recording.finish.disk = recording.disk := by simp [Recording.finish, hfailure]
    exact ⟨recording.recorder.store, hdisk, h.stands.kept⟩
  | none =>
    have hdisk : recording.finish.disk
        = (recording.sink.flush recording.recorder.store).store.disk := by
      simp only [Recording.finish, hfailure]
      split <;> rfl
    exact ⟨_, hdisk, (h.sink.flush h.stands.kept).kept h.stands.kept⟩

theorem checkFiles_finish (h : Passes paths layout recording log done entries actions) :
    Script.checkFiles recording.finish.disk paths.registry paths.steps
      = .ok ⟨2 * recording.actions, []⟩ := by
  obtain ⟨store, hdisk, hkept⟩ := h.kept_finish
  rw [hdisk]
  exact h.checkFiles_of_kept hkept

end Passes

/-- The output of a recording always passes its own check, with two steps for each action recorded
so far: after any acts, and when the recording ends, be it because it is stopped or because the sink
has refused a write. -/
theorem output_passes_check {disk ready : Disk} {source : Nat}
    (h : Ready paths layout source disk ready) (hsink : MayRefuse paths layout sink)
    (conduct : Conduct) (collision : CollisionPolicy) :
    ∃ prepared follower artifacts, prepare disk paths = (prepared, .ok (follower, artifacts))
      ∧ ∀ acts : List Act,
        let recording := Recording.run conduct paths.log
          { begin collision prepared follower artifacts with sink } acts
        Script.checkFiles recording.disk paths.registry paths.steps
            = .ok ⟨2 * recording.actions, []⟩
        ∧ Script.checkFiles recording.finish.disk paths.registry paths.steps
            = .ok ⟨2 * recording.actions, []⟩ := by
  obtain ⟨prepared, follower, artifacts, hprepare, hstands⟩ := h.exists_stands_prepare collision
  refine ⟨prepared, follower, artifacts, hprepare, ?_⟩
  intro acts recording
  have hstart : Passes paths layout { begin collision prepared follower artifacts with sink }
      (ready.content source) [] [] [] := by
    refine ⟨hstands.congr rfl rfl, hsink, rfl, List.nodup_nil, ?_, ?_⟩
    · exact fun action haction => nomatch haction
    · exact fun _ => ⟨rfl, .initial collision⟩
  obtain ⟨done, entries, actions, hrun⟩ := hstart.run conduct acts
  exact ⟨hrun.checkFiles, hrun.checkFiles_finish⟩

/-- A sink that refuses every write after the first action. The second element is not in the
registry file, and the click on it is never processed. -/
theorem check_of_refused_write :
    let disk := Disk.ofCurrent "home".toList
    let layout : Layout := .within ["home".toList]
    let log := Text.encode ("\"value\":\"//a[@name='Ok']\"\n\"ELEMENT\":\"1\"\n/element/1/click\n"
      ++ "\"value\":\"//b[@name='No']\"\n\"ELEMENT\":\"2\"\n/element/2/click\n").toList
    let conduct : Conduct := ⟨.oneShot, Oracle.offline⟩
    let failure : Failure := .persistence "steps.txt".toList (.system .noSpace)
    let sink : Sink Artifacts.Store :=
      { Artifacts.sink with
        perform := fun store write =>
          if store.artifacts.position = 0 then Artifacts.perform store write
          else ⟨store, .error failure, []⟩ }
    ∃ ready, Ready {} layout 0 disk ready ∧ MayRefuse {} layout sink
      ∧ ∃ prepared follower artifacts, prepare disk {} = (prepared, .ok (follower, artifacts))
        ∧ Script.checkFiles (Recording.run conduct "appium.log".toList
              { begin .suffix prepared follower artifacts with sink }
              [.append log, .poll, .poll, .poll, .poll, .poll, .poll]).finish.disk
            "locators.json".toList "steps.txt".toList
          = .ok ⟨2, []⟩ := by
  intro disk layout log conduct failure sink
  have hsink : MayRefuse {} layout sink := by
    refine ⟨fun {store _ _} h write => ?_, fun h => .refl h⟩
    by_cases hposition : store.artifacts.position = 0
    · exact Or.inl (by simp [Accepts, sink, hposition])
    · refine Or.inr ⟨⟨failure, by simp [sink, hposition]⟩, ?_⟩
      have hstore : (sink.perform store write).store = store := by simp [sink, hposition]
      rw [hstore]
      exact .refl h
  obtain ⟨prepared, follower, artifacts, hprepare, hacts⟩ :=
    output_passes_check Ready.home hsink conduct .suffix
  refine ⟨_, Ready.home, hsink, prepared, follower, artifacts, hprepare, ?_⟩
  refine (hacts [.append log, .poll, .poll, .poll, .poll, .poll, .poll]).2.trans ?_
  have hactions : ((prepare disk {}).2.toOption.map fun made =>
      (Recording.run conduct "appium.log".toList
        { begin .suffix (prepare disk {}).1 made.1 made.2 with sink }
        [.append log, .poll, .poll, .poll, .poll, .poll, .poll]).actions) = some 1 := by
    decide +kernel
  rw [hprepare] at hactions
  exact congrArg (fun count => Except.ok (Script.Report.mk (2 * count) []))
    (Option.some.inj hactions)

end Recording
end StepRecorder
