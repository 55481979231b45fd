import StepRecorder.Files.Reading
import StepRecorder.Proofs.Correlation.Named
import StepRecorder.Proofs.Recording
import StepRecorder.Proofs.Registry.Json
import StepRecorder.Proofs.Text.Utf8

/-!
The registry file is the registry in memory, written down. Creation writes the empty one; after that
the entries change in a binding only, and a binding writes all of them before it succeeds.

    memory   []  ─ bind ─▶  [a]  ─ click ─▶  [a]  ─ bind ─▶  [a, b]
    file     {}    write    {a}              {a}    write    {a, b}

Main statement: `registry_file_eq_snapshot`.
-/

namespace StepRecorder.Artifacts

/-- The entries in the registry file of a path. -/
def entriesIn? (disk : Disk) (path : Text) : Option (List (Text × Text)) :=
  match (Reading.ofDisk disk path).text? with
  | .ok text => Registry.ofText? text
  | .error _ => none

/-- The three places of artifacts. -/
structure Sites where
  registry : Place
  temporary : Place
  steps : Place
  deriving Repr, DecidableEq

/-- All three places. -/
def Sites.places (sites : Sites) : List Place := [sites.registry, sites.temporary, sites.steps]

/-- A disk on which the ways to the artifacts can be made. The paths then lead to three different
plain places with different files, and neither the registry nor the temporary file is a link. -/
structure Ordinary (registry steps : Text) (sites : Sites) (disk ready : Disk) : Prop where
  sound : disk.IsSound
  made : makeWays disk [registry, steps] = (ready, .ok ())
  registryFile : ready.filePlace? registry = .ok sites.registry
  registryOwn : ready.ownPlace? registry = .ok sites.registry
  temporaryFile : ready.filePlace? (Replacement.temporaryPath registry) = .ok sites.temporary
  temporaryOwn : ready.ownPlace? (Replacement.temporaryPath registry) = .ok sites.temporary
  stepsFile : ready.filePlace? steps = .ok sites.steps
  distinct : sites.places.Nodup
  apart : ready.AreApart sites.places
  plain : ∀ place ∈ sites.places, ready.IsPlain place

variable {registry steps : Text} {sites : Sites} {disk ready : Disk}

/-- Artifacts alone have no log. The root stands in for one: no artifact can be there. -/
def rootPaths (registry steps : Text) : Paths := ⟨['/'], registry, steps⟩

/-- The places of artifacts without a log. -/
def Sites.layout (sites : Sites) : Layout := ⟨[], sites.registry, sites.temporary, sites.steps⟩

theorem filePlace?_root (disk : Disk) : disk.filePlace? ['/'] = .ok [] := by
  unfold Disk.filePlace? Disk.follow
  rw [show Disk.refused? ['/'] = none from by decide +kernel]
  rfl

namespace Ordinary

theorem soundReady (h : Ordinary registry steps sites disk ready) : ready.IsSound := by
  have hmade := Recording.makeWays_induction (motive := Disk.IsSound)
    (fun _ path hsound => hsound.makeParents path) [registry, steps] disk h.sound
  rwa [h.made] at hmade

theorem isOn (h : Ordinary registry steps sites disk ready) :
    sites.layout.IsOn ready (rootPaths registry steps) := by
  refine ⟨filePlace?_root ready, h.registryFile, h.registryOwn, h.temporaryFile, h.temporaryOwn,
    h.stepsFile, List.nodup_cons.mpr ⟨?_, h.distinct⟩⟩
  intro hroot
  exact (h.plain [] hroot).ne_directory rfl

theorem areApart (h : Ordinary registry steps sites disk ready) :
    ready.AreApart sites.layout.places := by
  have hroot : ∀ place, ¬ ready.SharesFile [] place := fun _ =>
    Disk.not_sharesFile fun _ hid => nomatch hid
  intro first hfirst second hsecond hne hshared
  rcases List.mem_cons.mp hfirst with rfl | hfirst
  · exact hroot second hshared
  rcases List.mem_cons.mp hsecond with rfl | hsecond
  · exact hroot first hshared.symm
  · exact h.apart first hfirst second hsecond hne hshared

/-- Both artifacts can be created, and are empty then. Nothing else is touched. -/
theorem exists_created (h : Ordinary registry steps sites disk ready) :
    ∃ created artifacts, create disk registry steps = (created, .ok artifacts)
      ∧ Kept (rootPaths registry steps) sites.layout ⟨created, artifacts⟩ [] []
      ∧ ready.Spares sites.places created := by
  have hmade : makeWays disk [(rootPaths registry steps).registry, (rootPaths registry steps).steps]
      = (ready, .ok ()) := h.made
  exact exists_kept_create hmade h.soundReady h.isOn h.areApart h.plain

theorem exists_kept (h : Ordinary registry steps sites disk ready) :
    ∃ created artifacts, create disk registry steps = (created, .ok artifacts)
      ∧ Kept (rootPaths registry steps) sites.layout ⟨created, artifacts⟩ [] [] := by
  obtain ⟨created, artifacts, hcreate, hkept, -⟩ := h.exists_created
  exact ⟨created, artifacts, hcreate, hkept⟩

end Ordinary

/-- What is kept as the registry is read back. -/
theorem Kept.entriesIn_eq {paths : Paths} {layout : Layout} {store : Store}
    {entries : List (Text × Text)} {script : Text} (h : Kept paths layout store entries script)
    (hdistinct : (Ordered.keys entries).Nodup) :
    entriesIn? store.disk paths.registry = some entries := by
  simp [entriesIn?, Reading.text?, Reading.ofDisk, h.read?_registry,
    Text.decode?_encode, Registry.ofText?_render hdistinct]

/-- A run on artifacts never fails, and keeps the entries of the state. -/
theorem kept_processAll {paths : Paths} {layout : Layout} (conduct : Conduct)
    (recorder : Recorder Store) {script : Text}
    (h : Kept paths layout recorder.store recorder.state.registry.locators script)
    (hnamed : Correlation.Named recorder.state) (events : List Event) :
    let done := recorder.processAll sink conduct events
    (∀ result ∈ done.2, result.isOk = true)
      ∧ Correlation.Named done.1.state
      ∧ ∃ script, Kept paths layout done.1.store done.1.state.registry.locators script := by
  induction events generalizing recorder script with
  | nil => exact ⟨fun result hmem => absurd hmem List.not_mem_nil, hnamed, script, h⟩
  | cons event events ih =>
    have hstep := Correlation.transition_step conduct.target conduct.oracle recorder.state event
    have haccepts : ∀ write ∈
        (Correlation.step conduct.target conduct.oracle recorder.state event).write,
        Recording.Accepts sink recorder.store write := fun _ _ => rfl
    obtain ⟨hstate, hresult, hkept, -⟩ := Recording.process_of_kept conduct h event haccepts
    rw [← hstate] at hkept
    have hnext : Correlation.Named (recorder.process sink conduct event).recorder.state := by
      rw [hstate]
      exact hnamed.step hstep
    obtain ⟨hresults, hlast⟩ := ih _ hkept hnext
    refine ⟨?_, hlast⟩
    intro result hmem
    rcases List.mem_cons.mp hmem with rfl | hlater
    · rw [hresult]
      rfl
    · exact hresults result hlater

/-- The registry file always holds the registry in memory: after creation and after any events, none
of which fails, reading it gives the same names in the same order with the same locators. -/
theorem registry_file_eq_snapshot (h : Ordinary registry steps sites disk ready)
    (conduct : Conduct) (collision : CollisionPolicy) :
    ∃ created artifacts, create disk registry steps = (created, .ok artifacts)
      ∧ ∀ events : List Event,
        let done := Recorder.processAll sink conduct
          ⟨.initial collision, ⟨created, artifacts⟩⟩ events
        (∀ result ∈ done.2, result.isOk = true)
          ∧ entriesIn? done.1.store.disk registry = some done.1.state.registry.locators := by
  obtain ⟨created, artifacts, hcreate, hkept⟩ := h.exists_kept
  refine ⟨created, artifacts, hcreate, fun events => ?_⟩
  obtain ⟨hresults, hnamed, script, hlast⟩ :=
    kept_processAll conduct ⟨.initial collision, ⟨created, artifacts⟩⟩ hkept
      (.initial collision) events
  exact ⟨hresults, hlast.entriesIn_eq hnamed.distinct⟩

/-- Two locators of one name, with quotes of both kinds, a backslash and a character of four bytes.
The second takes the place of the first. -/
theorem registry_file_of_overwritten_name :
    let disk := Disk.ofCurrent "home".toList
    let registry := "locators.json".toList
    let steps := "steps.txt".toList
    let layout : Layout := .within ["home".toList]
    let conduct : Conduct := ⟨.oneShot, Oracle.offline⟩
    let events : List Event := [⟨.locator, "//a[@name='Ok']".toList⟩, ⟨.element, ['1']⟩,
      ⟨.locator, "//b[@name='Ok'][.='\"\\😀']".toList⟩, ⟨.element, ['2']⟩]
    ∃ ready, Ordinary registry steps ⟨layout.registry, layout.temporary, layout.steps⟩ disk ready
      ∧ ∃ created artifacts, create disk registry steps = (created, .ok artifacts)
        ∧ let recorder : Recorder Store := ⟨.initial .overwrite, ⟨created, artifacts⟩⟩
          entriesIn? (recorder.processAll sink conduct events).1.store.disk registry
            = some [("Ok".toList, "xpath=//b[@name='Ok'][.='\"\\😀']".toList)] := by
  intro disk registry steps layout conduct events
  have hnone : ∀ place ∈ Sites.places ⟨layout.registry, layout.temporary, layout.steps⟩,
      (makeWays disk [registry, steps]).1.at? place = none := by
    intro place hplace
    simp only [Sites.places, List.mem_cons, List.not_mem_nil, or_false] at hplace
    rcases hplace with rfl | rfl | rfl <;> rfl
  have hordinary : Ordinary registry steps ⟨layout.registry, layout.temporary, layout.steps⟩ disk
      (makeWays disk [registry, steps]).1 := by
    refine ⟨.ofCurrent _, rfl, by decide +kernel, by decide +kernel, by decide +kernel,
      by decide +kernel, by decide +kernel, by decide, ?_,
      fun place hplace => .inl (hnone place hplace)⟩
    exact Disk.areApart_of_forall_ne layout.registry fun place hplace _ id hid =>
      nomatch (hnone place hplace).symm.trans hid
  obtain ⟨created, artifacts, hcreate, hevents⟩ :=
    registry_file_eq_snapshot hordinary conduct .overwrite
  refine ⟨_, hordinary, created, artifacts, hcreate, (hevents events).2.trans ?_⟩
  have hlocators : ((create disk registry steps).2.toOption.map fun made =>
      (Recorder.processAll sink conduct
        ⟨.initial .overwrite, ⟨(create disk registry steps).1, made⟩⟩
        events).1.state.registry.locators)
      = some [("Ok".toList, "xpath=//b[@name='Ok'][.='\"\\😀']".toList)] := by
    decide +kernel
  rw [hcreate] at hlocators
  exact hlocators

end StepRecorder.Artifacts
