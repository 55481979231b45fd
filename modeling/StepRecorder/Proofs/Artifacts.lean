import StepRecorder.Config
import StepRecorder.Proofs.Correlation.Step
import StepRecorder.Proofs.Files.Replacement
import StepRecorder.Sink.Artifacts

/-!
The artifacts on a disk, while log, registry, temporary file and script are four plain places. What
the two files hold is told by a list of entries and a text, and each write changes one of these:

    registry more    (entries, script)  ─▶  (more, script)
    action a         (entries, script)  ─▶  (entries, script ++ the lines of a)

Main statements: `Kept.replaceRegistry`, `Kept.append` and `Kept.perform` for the writes,
`exists_kept_create` for the start.
-/

namespace StepRecorder

/-- The places of the files of a recording. -/
structure Layout where
  log : Place
  registry : Place
  temporary : Place
  steps : Place
  deriving Repr, DecidableEq

namespace Layout

/-- The places of the default paths in a directory. -/
def within (base : Place) : Layout :=
  ⟨base ++ ["appium.log".toList], base ++ ["locators.json".toList],
    base ++ ["locators.json.tmp".toList], base ++ ["steps.txt".toList]⟩

/-- All four places. -/
def places (layout : Layout) : List Place :=
  [layout.log, layout.registry, layout.temporary, layout.steps]

/-- The places that the artifacts are written through. -/
def written (layout : Layout) : List Place := [layout.registry, layout.temporary, layout.steps]

/-- The paths of a recording lead to four different places. The registry and the temporary file are
no links, since a link would be replaced and not followed. -/
structure IsOn (layout : Layout) (disk : Disk) (paths : Paths) : Prop where
  log : disk.filePlace? paths.log = .ok layout.log
  registry : disk.filePlace? paths.registry = .ok layout.registry
  registryOwn : disk.ownPlace? paths.registry = .ok layout.registry
  temporary : disk.filePlace? (Replacement.temporaryPath paths.registry) = .ok layout.temporary
  temporaryOwn : disk.ownPlace? (Replacement.temporaryPath paths.registry) = .ok layout.temporary
  steps : disk.filePlace? paths.steps = .ok layout.steps
  distinct : layout.places.Nodup

variable {layout : Layout} {disk disk' : Disk} {paths : Paths} {places : List Place}

/-- Whatever becomes of plain places, the paths lead to the same ones. -/
theorem IsOn.spares (h : layout.IsOn disk paths) (hspares : disk.Spares places disk') :
    layout.IsOn disk' paths :=
  ⟨hspares.follow h.log, hspares.follow h.registry, hspares.follow h.registryOwn,
    hspares.follow h.temporary, hspares.follow h.temporaryOwn, hspares.follow h.steps, h.distinct⟩

theorem IsOn.apart (h : layout.IsOn disk paths) :
    layout.log ≠ layout.registry ∧ layout.log ≠ layout.temporary ∧ layout.log ≠ layout.steps
      ∧ layout.registry ≠ layout.temporary ∧ layout.registry ≠ layout.steps
      ∧ layout.temporary ≠ layout.steps := by
  simpa [places, and_assoc] using h.distinct

/-- The log is apart from what is written. -/
theorem IsOn.isApart_log (h : layout.IsOn disk paths) (hapart : disk.AreApart layout.places) :
    disk.IsApart layout.written layout.log := by
  obtain ⟨hregistry, htemporary, hsteps, -⟩ := h.apart
  exact hapart.isApart (by simp [places, written]) (by simp [places])
    (by simp [written, hregistry, htemporary, hsteps])

end Layout

namespace Artifacts

/-- A store whose registry holds some entries, and whose script holds a text and is written at its
end. The four files are different ones; other files may have several names. -/
structure Kept (paths : Paths) (layout : Layout) (store : Store) (entries : List (Text × Text))
    (script : Text) : Prop where
  sound : store.disk.IsSound
  ways : layout.IsOn store.disk paths
  apart : store.disk.AreApart layout.places
  registryPath : store.artifacts.registry = paths.registry
  temporary : store.disk.IsPlain layout.temporary
  registry : ∃ id, store.disk.at? layout.registry = some (.file id)
    ∧ store.disk.content id = Text.encode (Registry.render entries)
  steps : ∃ id, store.artifacts.script = .file id
    ∧ store.disk.at? layout.steps = some (.file id)
    ∧ store.disk.content id = Text.encode script
    ∧ store.artifacts.position = (Text.encode script).length

namespace Kept

variable {paths : Paths} {layout : Layout} {store : Store} {entries : List (Text × Text)}
  {script : Text}

/-- Replacing the registry leaves the script alone. -/
theorem replaceRegistry (h : Kept paths layout store entries script)
    (more : List (Text × Text)) :
    (Artifacts.replaceRegistry store more).result = .ok ()
      ∧ Kept paths layout (Artifacts.replaceRegistry store more).store more script
      ∧ store.disk.Spares layout.written (Artifacts.replaceRegistry store more).store.disk := by
  obtain ⟨hsound, hways, hapart, hpath, htemporary, ⟨old, hold, -⟩,
    ⟨steps, hscript, hsteps, hcontent, hposition⟩⟩ := h
  obtain ⟨-, -, -, hne, hregistrySteps, htemporarySteps⟩ := hways.apart
  obtain ⟨progress, id, hrun, hsound', hspares, -, hgone, hregistry, hbytes⟩ :=
    Replacement.run_of_isClosed hsound hways.registryOwn (Disk.IsPlain.of_file hold).isClosed
      hways.temporary hways.temporaryOwn htemporary (Ne.symm hne)
      (Replacement.Mishaps.areUntold_of_none (Text.encode (Registry.render more)))
  have hsub : [layout.temporary, layout.registry] ⊆ layout.places := by simp [Layout.places]
  have hspared : store.disk.IsApart [layout.temporary, layout.registry] layout.steps :=
    hapart.isApart hsub (by simp [Layout.places])
      (by simp [Ne.symm hregistrySteps, Ne.symm htemporarySteps])
  have hdelivery : Artifacts.replaceRegistry store more
      = ⟨{ store with disk := progress.disk }, .ok (), []⟩ := by
    simp only [Artifacts.replaceRegistry, Artifacts.replaceRegistryDespite, hpath, hrun]
  rw [hdelivery]
  refine ⟨rfl, ⟨hsound', hways.spares hspares, ?_, hpath, Or.inl hgone, ⟨id, hregistry, hbytes⟩,
    ⟨steps, hscript, ?_, ?_, hposition⟩⟩, hspares.mono ?_⟩
  · -- nothing is left at the temporary place
    exact hspares.areApart hsub hapart
      (Disk.areApart_pair (Disk.not_sharesFile (by simp [hgone])))
  · exact (hspares.at? _ hspared.notMem).trans hsteps
  · exact (hspares.content _ _ hspared hsteps).trans hcontent
  · intro place hplace
    simp only [Layout.written, List.mem_cons, List.not_mem_nil, or_false] at hplace ⊢
    tauto

/-- Adding an action to the script leaves the registry alone. -/
theorem append (h : Kept paths layout store entries script) (action : Action) :
    (Artifacts.append store action).result = .ok ()
      ∧ Kept paths layout (Artifacts.append store action).store entries (script ++ action.script)
      ∧ store.disk.Spares layout.written (Artifacts.append store action).store.disk := by
  obtain ⟨hsound, hways, hapart, hpath, htemporary, ⟨id, hregistry, hentries⟩,
    ⟨steps, hscript, hsteps, hcontent, hposition⟩⟩ := h
  obtain ⟨-, -, -, -, hregistrySteps, htemporarySteps⟩ := hways.apart
  have hspares := Disk.spares_write hsteps store.artifacts.position (Text.encode action.script)
  have hspared : store.disk.IsApart [layout.steps] layout.registry :=
    hapart.isApart (by simp [Layout.places]) (by simp [Layout.places])
      (by simpa using hregistrySteps)
  have hdelivery : Artifacts.append store action
      = ⟨{ disk := (Handle.file steps).write store.disk store.artifacts.position
              (Text.encode action.script)
           artifacts := { store.artifacts with
              position := store.artifacts.position + (Text.encode action.script).length } },
          .ok (), [.actionRecorded action.instruction action.wait]⟩ := by
    simp only [Artifacts.append, Artifacts.synced, hscript, Handle.written, Handle.synced]
  have hencode : Text.encode (script ++ action.script)
      = Text.encode script ++ Text.encode action.script := List.flatMap_append
  rw [hdelivery]
  refine ⟨rfl, ⟨hsound.write _ _ (.file steps), hways.spares hspares, ?_, hpath, ?_,
    ⟨id, hregistry, ?_⟩, ⟨steps, hscript, hsteps, ?_, ?_⟩⟩, hspares.mono ?_⟩
  · exact hspares.areApart_of_singleton (by simp [Layout.places]) hapart
  · exact hspares.isPlain (by simpa using htemporarySteps) htemporary
  · exact (hspares.content _ _ hspared hregistry).trans hentries
  · rw [Handle.content_write_self, hcontent, hposition, Handle.overwrite_end, hencode]
  · simp [hposition, hencode]
  · simp [Layout.written]

/-- A write succeeds, and keeps everything else. -/
theorem perform (h : Kept paths layout store entries script) (write : Correlation.Write) :
    (Artifacts.perform store write).result = .ok ()
      ∧ Kept paths layout (Artifacts.perform store write).store
          (Correlation.entriesAfter entries (some write))
          (script ++ (Correlation.actionsIn (some write)).flatMap Action.script)
      ∧ store.disk.Spares layout.written (Artifacts.perform store write).store.disk := by
  cases write with
  | registry more =>
    have hscript : script ++ (Correlation.actionsIn (some (.registry more))).flatMap Action.script
        = script := by simp [Correlation.actionsIn]
    rw [hscript]
    exact h.replaceRegistry more
  | action action =>
    have hscript : script ++ (Correlation.actionsIn (some (.action action))).flatMap Action.script
        = script ++ action.script := by simp [Correlation.actionsIn]
    rw [hscript]
    exact h.append action

/-- There is nothing left to be made permanent. -/
theorem synced (h : Kept paths layout store entries script) :
    store.artifacts.synced = .ok () := by
  obtain ⟨id, hscript, -⟩ := h.steps
  simp [Artifacts.synced, hscript, Handle.synced]

theorem read?_registry (h : Kept paths layout store entries script) :
    store.disk.read? paths.registry = .ok (Text.encode (Registry.render entries)) := by
  obtain ⟨id, hfile, hcontent⟩ := h.registry
  rw [Disk.read?_of_file h.ways.registry hfile, hcontent]

theorem read?_steps (h : Kept paths layout store entries script) :
    store.disk.read? paths.steps = .ok (Text.encode script) := by
  obtain ⟨id, -, hfile, hcontent, -⟩ := h.steps
  rw [Disk.read?_of_file h.ways.steps hfile, hcontent]

/-- Changes at another of the places leave both artifacts alone. -/
theorem spares (h : Kept paths layout store entries script) {disk : Disk} {place : Place}
    (hsound : disk.IsSound) (htemporary : disk.IsPlain layout.temporary)
    (hspares : store.disk.Spares [place] disk) (hplace : place ∈ layout.places)
    (hregistry : layout.registry ≠ place) (hsteps : layout.steps ≠ place) :
    Kept paths layout { store with disk } entries script := by
  obtain ⟨id, hid, hentries⟩ := h.registry
  obtain ⟨steps, hscript, hfile, hcontent, hposition⟩ := h.steps
  have hspared : ∀ other ∈ layout.places, other ≠ place → store.disk.IsApart [place] other :=
    fun other hother hne => h.apart.isApart (by simpa using hplace) hother (by simpa using hne)
  have hregistry' := hspared _ (by simp [Layout.places]) hregistry
  have hsteps' := hspared _ (by simp [Layout.places]) hsteps
  refine ⟨hsound, h.ways.spares hspares, hspares.areApart_of_singleton hplace h.apart,
    h.registryPath, htemporary, ⟨id, ?_, ?_⟩, ⟨steps, hscript, ?_, ?_, hposition⟩⟩
  · exact (hspares.at? _ hregistry'.notMem).trans hid
  · exact (hspares.content _ _ hregistry' hid).trans hentries
  · exact (hspares.at? _ hsteps'.notMem).trans hfile
  · exact (hspares.content _ _ hsteps' hfile).trans hcontent

end Kept

/-! ### The start -/

/-- Starting a file at a plain place. -/
theorem start_of_isPlain {disk : Disk} {path : Text} {place : Place} (h : disk.IsSound)
    (hpath : disk.filePlace? path = .ok place) (hplain : disk.IsPlain place) (bytes : Bytes) :
    ∃ disk' id, start disk path bytes = (disk', .ok (.file id)) ∧ disk'.IsSound
      ∧ disk.Spares [place] disk' ∧ disk'.at? place = some (.file id)
      ∧ disk'.content id = bytes := by
  obtain ⟨opened, id, hopen, hsound, hspares, hfile, hempty⟩ :=
    Disk.openWrite?_of_isPlain h hpath hplain true
  refine ⟨(Handle.file id).write opened 0 bytes, id, ?_, hsound.write .., ?_, hfile, ?_⟩
  · simp [start, hopen, Handle.written]
  · exact hspares.trans (Disk.spares_write hfile ..)
  · rw [Handle.content_write_self, hempty rfl]
    exact Handle.overwrite_end [] bytes

variable {paths : Paths} {layout : Layout} {disk ready : Disk}

/-- Where the ways can be made and lead to plain places, both artifacts can be started. Whatever
they held before is gone. -/
theorem exists_kept_create (hmake : makeWays disk [paths.registry, paths.steps] = (ready, .ok ()))
    (hsound : ready.IsSound) (hways : layout.IsOn ready paths)
    (hapart : ready.AreApart layout.places)
    (hplain : ∀ place ∈ layout.written, ready.IsPlain place) :
    ∃ disk' artifacts, create disk paths.registry paths.steps = (disk', .ok artifacts)
      ∧ Kept paths layout ⟨disk', artifacts⟩ [] [] ∧ ready.Spares layout.written disk' := by
  obtain ⟨-, -, -, hregistryTemporary, hregistrySteps, htemporarySteps⟩ := hways.apart
  obtain ⟨first, id, hfirst, hfirstSound, hfirstSpares, hregistry, hentries⟩ :=
    start_of_isPlain hsound hways.registry (hplain _ (by simp [Layout.written]))
      (Text.encode (Registry.render []))
  have hwaysFirst := hways.spares hfirstSpares
  have hapartFirst : first.AreApart layout.places :=
    hfirstSpares.areApart_of_singleton (by simp [Layout.places]) hapart
  have hplainSteps : first.IsPlain layout.steps :=
    hfirstSpares.isPlain (by simpa using Ne.symm hregistrySteps)
      (hplain _ (by simp [Layout.written]))
  obtain ⟨second, steps, hsecond, hsecondSound, hsecondSpares, hsteps, hempty⟩ :=
    start_of_isPlain hfirstSound hwaysFirst.steps hplainSteps []
  have hregistryKept : first.IsApart [layout.steps] layout.registry :=
    hapartFirst.isApart (by simp [Layout.places]) (by simp [Layout.places])
      (by simpa using hregistrySteps)
  refine ⟨second, ⟨paths.registry, paths.steps, .file steps, 0⟩, ?_,
    ⟨hsecondSound, hwaysFirst.spares hsecondSpares,
      hsecondSpares.areApart_of_singleton (by simp [Layout.places]) hapartFirst, rfl, ?_,
      ⟨id, ?_, ?_⟩, ⟨steps, rfl, hsteps, hempty, rfl⟩⟩, ?_⟩
  · simp only [create, hmake, hfirst, hsecond]
  · refine hsecondSpares.isPlain (by simpa using htemporarySteps) ?_
    exact hfirstSpares.isPlain (by simpa using Ne.symm hregistryTemporary)
      (hplain _ (by simp [Layout.written]))
  · exact (hsecondSpares.at? _ hregistryKept.notMem).trans hregistry
  · exact (hsecondSpares.content _ _ hregistryKept hregistry).trans hentries
  · exact (hfirstSpares.mono (by simp [Layout.written])).trans
      (hsecondSpares.mono (by simp [Layout.written]))

end Artifacts
end StepRecorder
