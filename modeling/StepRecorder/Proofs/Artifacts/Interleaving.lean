import StepRecorder.Proofs.Artifacts.AllOrNothing
import StepRecorder.Proofs.Artifacts.Snapshot

/-!
The two artifacts do not disturb each other, nor anything else on the disk, in whatever order they
are written and flushed.

    call            registry     script         every other place
    (created)       {}
    append tap      {}           tap            the same all the time
    registry [a]    {a}          tap
    flush           {a}          tap
    append enter    {a}          tap enter

The registry is that of the last call for it, the script the sum of the calls for it; neither looks
at the other calls. Creating the artifacts adds directories on the way to them, and nothing else.

Main statement: `writes_stay_apart`.
-/

namespace StepRecorder

namespace Disk

variable {disk disk' : Disk} {place : Place} {path : Text}

/-- What is read is what stands where the path leads. -/
theorem read?_of_place? (h : disk.place? path = .ok place) :
    disk.read? path = match disk.standing? place with
      | none => .error .noEntry
      | some .directory => .error .isDirectory
      | some (.file bytes) => .ok bytes
      | some (.link _) => .error .tooManyLinks
      | some (.device _) => .ok [] := by
  simp only [read?, openRead?, entry?, h, bind, Except.bind, standing?]
  cases disk.at? place with
  | none => rfl
  | some entry => cases entry <;> rfl

/-- A path that can be read leads to something. -/
theorem exists_place?_of_read? {bytes : Bytes} (h : disk.read? path = .ok bytes) :
    ∃ place entry, disk.place? path = .ok place ∧ disk.at? place = some entry := by
  cases hplace : disk.place? path with
  | error error => simp [read?, openRead?, entry?, hplace, bind, Except.bind] at h
  | ok place =>
    cases hentry : disk.at? place with
    | none => simp [read?_of_place? hplace, standing?, hentry] at h
    | some entry => exact ⟨place, entry, rfl, hentry⟩

theorem Extends.standing?_eq (h : Extends disk disk') {entry : Entry}
    (hentry : disk.at? place = some entry) : disk'.standing? place = disk.standing? place := by
  simp only [standing?, hentry, h.at? place entry hentry]
  cases entry with
  | file id => simp [item, h.content place id hentry]
  | _ => rfl

end Disk

namespace Artifacts

/-- What can be asked of the artifacts. -/
inductive Call where
  | write (write : Correlation.Write)
  | flush

/-- The entries that a call writes as the registry. -/
def Call.snapshot? : Call → Option (List (Text × Text))
  | .write (.registry entries) => some entries
  | _ => none

/-- The action that a call adds to the script. -/
def Call.action? : Call → Option Action
  | .write (.action action) => some action
  | _ => none

/-- A call, and what comes of it. -/
def call (store : Store) : Call → Delivery Store
  | .write write => sink.perform store write
  | .flush => sink.flush store

/-- Some calls, one after the other, and what each of them comes to. -/
def callAll (store : Store) : List Call → Store × List (Except Failure Unit)
  | [] => (store, [])
  | next :: calls =>
    let delivery := call store next
    let done := callAll delivery.store calls
    (done.1, delivery.result :: done.2)

variable {paths : Paths} {layout : Layout} {store : Store} {entries : List (Text × Text)}
  {script : Text}

namespace Kept

/-- A call succeeds. It replaces the registry or adds to the script, and keeps everything else. -/
theorem call (h : Kept paths layout store entries script) (next : Call) :
    (Artifacts.call store next).result = .ok ()
      ∧ Kept paths layout (Artifacts.call store next).store (next.snapshot?.getD entries)
          (script ++ next.action?.toList.flatMap Action.script)
      ∧ store.disk.Spares layout.written (Artifacts.call store next).store.disk := by
  cases next with
  | write write =>
    cases write with
    | registry more =>
      have hscript : script ++ (Call.write (.registry more)).action?.toList.flatMap Action.script
          = script := List.append_nil script
      rw [hscript]
      exact h.replaceRegistry more
    | action action =>
      have hscript : script ++ (Call.write (.action action)).action?.toList.flatMap Action.script
          = script ++ action.script := by simp [Call.action?]
      rw [hscript]
      exact h.append action
  | flush =>
    have hscript : script ++ Call.flush.action?.toList.flatMap Action.script = script :=
      List.append_nil script
    rw [hscript]
    exact ⟨h.synced, h, .refl _ _⟩

/-- So do any calls. -/
theorem callAll (h : Kept paths layout store entries script) (calls : List Call) :
    let done := Artifacts.callAll store calls
    (∀ result ∈ done.2, result = .ok ())
      ∧ Kept paths layout done.1 ((calls.filterMap Call.snapshot?).getLast?.getD entries)
          (script ++ (calls.filterMap Call.action?).flatMap Action.script)
      ∧ store.disk.Spares layout.written done.1.disk := by
  induction calls generalizing store entries script with
  | nil =>
    refine ⟨fun result hmem => absurd hmem List.not_mem_nil, ?_, .refl _ _⟩
    simpa [Artifacts.callAll] using h
  | cons next calls ih =>
    obtain ⟨hresult, hkept, hspares⟩ := h.call next
    obtain ⟨hresults, hlast, hrest⟩ := ih hkept
    have hentries : ((next :: calls).filterMap Call.snapshot?).getLast?.getD entries
        = (calls.filterMap Call.snapshot?).getLast?.getD (next.snapshot?.getD entries) := by
      cases hnext : next.snapshot? with
      | none => rw [List.filterMap_cons_none hnext, Option.getD_none]
      | some more => rw [List.filterMap_cons_some hnext, List.getLast?_cons]; rfl
    have hscript : script ++ ((next :: calls).filterMap Call.action?).flatMap Action.script
        = script ++ next.action?.toList.flatMap Action.script
          ++ (calls.filterMap Call.action?).flatMap Action.script := by
      cases hnext : next.action? with
      | none => simp [List.filterMap_cons_none hnext]
      | some action => simp [List.filterMap_cons_some hnext]
    refine ⟨List.forall_mem_cons.mpr ⟨hresult, hresults⟩, ?_, hspares.trans hrest⟩
    rw [hentries, hscript]
    exact hlast

end Kept

variable {registry steps : Text} {sites : Sites} {disk ready : Disk}

/-- Making the ways to artifacts adds directories only. -/
theorem widens_makeWays (disk : Disk) (paths : List Text) :
    disk.Widens (makeWays disk paths).1 :=
  Recording.makeWays_induction
    (fun made path hmade => hmade.trans (Disk.Widens.makeParents made path)) paths disk
    (Disk.Widens.refl disk)

theorem Ordinary.widens (h : Ordinary registry steps sites disk ready) : disk.Widens ready := by
  have hmade := widens_makeWays disk [registry, steps]
  rwa [h.made] at hmade

/-- A place that is apart from the artifacts is so when the ways to them are made. -/
theorem Ordinary.isApart (h : Ordinary registry steps sites disk ready) {place : Place}
    (hplace : disk.IsApart sites.places place) : ready.IsApart sites.places place := by
  refine ⟨hplace.notMem, fun other hother hshared => hplace.file other hother ?_⟩
  obtain ⟨id, hfile, hfile'⟩ := hshared
  exact ⟨id, h.widens.at?_of_file hfile, h.widens.at?_of_file hfile'⟩

/-- What artifacts and calls leave alone: at every place apart stands what stood there, or a
directory that was made where nothing was; and files apart are read as before. -/
theorem Ordinary.frame (h : Ordinary registry steps sites disk ready) {after : Disk}
    (hspares : ready.Spares sites.places after) :
    (∀ place, disk.IsApart sites.places place → after.standing? place = disk.standing? place
        ∨ disk.standing? place = none ∧ after.standing? place = some .directory)
      ∧ ∀ path bytes, disk.read? path = .ok bytes →
          (∀ place, disk.place? path = .ok place → disk.IsApart sites.places place) →
          after.read? path = .ok bytes := by
  have hwidens := h.widens
  constructor
  · intro place hplace
    rw [hspares.standing?_eq (h.isApart hplace)]
    cases hentry : disk.at? place with
    | some entry => exact Or.inl (hwidens.toExtends.standing?_eq hentry)
    | none =>
      have hnone : disk.standing? place = none := by simp [Disk.standing?, hentry]
      rcases hwidens.added place hentry with hstill | hdirectory
      · exact Or.inl (by simp [Disk.standing?, hentry, hstill])
      · exact Or.inr ⟨hnone, by simp [Disk.standing?, hdirectory, Disk.item]⟩
  · intro path bytes hread hother
    obtain ⟨place, entry, hplace, hentry⟩ := Disk.exists_place?_of_read? hread
    have hready : ready.place? path = .ok place := hwidens.toExtends.place? hplace hentry
    have hafter : after.place? path = .ok place := hspares.follow hready
    have hapart := h.isApart (hother place hplace)
    rw [Disk.read?_of_place? hafter, hspares.standing?_eq hapart,
      hwidens.toExtends.standing?_eq hentry, ← Disk.read?_of_place? hplace]
    exact hread

/-- The artifacts do not disturb each other or anything else. Once they are created, all calls
succeed, in any order. After them the script holds the lines of the actions that were added, in
order, and the registry the entries that were written last, or none if there was no call for it.
Every place that is none of theirs, and no other name of one of their files, is as it was before the
artifacts were created, but for directories made on the way to them; so every other file, the log
among them, holds what it held. -/
theorem writes_stay_apart (h : Ordinary registry steps sites disk ready) :
    ∃ created artifacts, create disk registry steps = (created, .ok artifacts)
      ∧ ∀ calls : List Call,
        let done := callAll ⟨created, artifacts⟩ calls
        let after := done.1.disk
        (∀ result ∈ done.2, result = .ok ())
          ∧ after.read? steps = .ok (Text.encode ((calls.filterMap Call.action?).flatMap
              fun action => action.instruction ++ ['\n'] ++ action.wait ++ ['\n']))
          ∧ after.read? registry = .ok (Text.encode
              (((calls.filterMap Call.snapshot?).getLast?.map Registry.render).getD "{}".toList))
          ∧ (∀ place, disk.IsApart sites.places place →
              after.standing? place = disk.standing? place
                ∨ disk.standing? place = none ∧ after.standing? place = some .directory)
          ∧ ∀ path bytes, disk.read? path = .ok bytes →
              (∀ place, disk.place? path = .ok place → disk.IsApart sites.places place) →
              after.read? path = .ok bytes := by
  obtain ⟨created, artifacts, hcreate, hkept, hspares⟩ := h.exists_created
  refine ⟨created, artifacts, hcreate, fun calls => ?_⟩
  intro done after
  obtain ⟨hresults, hlast, hrest⟩ := hkept.callAll calls
  obtain ⟨hplaces, hpaths⟩ := h.frame (hspares.trans hrest)
  refine ⟨hresults, ?script, ?entries, hplaces, hpaths⟩
  case script =>
    have hscript : Action.script
        = fun action => action.instruction ++ ['\n'] ++ action.wait ++ ['\n'] := by
      funext action
      simp [Action.script, Action.lines]
    rw [← hscript]
    exact hlast.read?_steps
  case entries =>
    have hempty : "{}".toList = Registry.render [] := by decide +kernel
    rw [hempty, Option.getD_map]
    exact hlast.read?_registry

/-- A registry in a directory that is not there yet, a script that held another text, and a log. -/
theorem writes_apart_beside_log :
    let home : Place := ["home".toList]
    let registry := "out/locators.json".toList
    let steps := "steps.txt".toList
    let log := Text.encode "session".toList
    let files := ((Disk.ofCurrent "home".toList).putFile (home ++ [steps])).putFile
      (home ++ ["appium.log".toList])
    let disk := (Handle.file 1).write
      ((Handle.file 0).write files 0 (Text.encode "Tap on Old\n".toList)) 0 log
    let sites : Sites := ⟨home ++ ["out".toList, "locators.json".toList],
      home ++ ["out".toList, "locators.json.tmp".toList], home ++ [steps]⟩
    let one : List (Text × Text) := [("Ok".toList, "xpath=//a".toList)]
    let calls : List Call := [.write (.action (.tap "Ok".toList)), .write (.registry one), .flush,
      .write (.action (.enter "a\tb".toList "Ok".toList)), .write (.registry [])]
    ∃ ready, Ordinary registry steps sites disk ready
      ∧ disk.read? "appium.log".toList = .ok log
      ∧ ∃ created artifacts, create disk registry steps = (created, .ok artifacts)
        ∧ let after := (callAll ⟨created, artifacts⟩ calls).1.disk
          after.read? steps = .ok (Text.encode
              "Tap on Ok\nWait for 2\nType a\\tb in Ok\nWait for 1\n".toList)
            ∧ after.read? registry = .ok (Text.encode "{}".toList)
            ∧ after.read? "appium.log".toList = .ok log := by
  intro home registry steps log files disk sites one calls
  have hsound : disk.IsSound := by
    have hfiles : files.IsSound := ((Disk.IsSound.ofCurrent "home".toList).putFile rfl rfl).putFile
      rfl rfl
    exact (hfiles.write _ _ _).write _ _ _
  have hnone : ∀ place ∈ sites.places, place ≠ sites.steps →
      (makeWays disk [registry, steps]).1.at? place = none := by decide +kernel
  have hscript : (makeWays disk [registry, steps]).1.at? sites.steps = some (.file 0) := by
    decide +kernel
  have hordinary : Ordinary registry steps sites disk (makeWays disk [registry, steps]).1 := by
    refine ⟨hsound, Prod.ext rfl (by decide +kernel), by decide +kernel, by decide +kernel,
      by decide +kernel, by decide +kernel, by decide +kernel, by decide +kernel, ?_, ?_⟩
    · exact Disk.areApart_of_forall_ne sites.steps fun place hplace hne id hid =>
        nomatch (hnone place hplace hne).symm.trans hid
    · intro place hplace
      by_cases hsteps : place = sites.steps
      · exact Or.inr ⟨0, hsteps ▸ hscript⟩
      · exact Or.inl (hnone place hplace hsteps)
  have hlog : disk.read? "appium.log".toList = .ok log := by decide +kernel
  have hplace : disk.place? "appium.log".toList = .ok (home ++ ["appium.log".toList]) := by
    decide +kernel
  have hapart : disk.IsApart sites.places (home ++ ["appium.log".toList]) := by
    have hfiles : ∀ place ∈ sites.places,
        disk.at? place = none ∨ disk.at? place = some (.file 0) := by decide +kernel
    have hother : disk.at? (home ++ ["appium.log".toList]) = some (.file 1) := by decide +kernel
    refine ⟨by decide +kernel, fun place hmem => ?_⟩
    rintro ⟨id, hid, hid'⟩
    cases hother.symm.trans hid'
    rcases hfiles place hmem with hnone | hfile
    · cases hnone.symm.trans hid
    · cases hfile.symm.trans hid
  obtain ⟨created, artifacts, hcreate, hcalls⟩ := writes_stay_apart hordinary
  obtain ⟨-, hlines, hentries, -, hothers⟩ := hcalls calls
  refine ⟨_, hordinary, hlog, created, artifacts, hcreate, ?_, ?_, ?_⟩
  · exact hlines.trans (by decide +kernel)
  · exact hentries.trans (by decide +kernel)
  · refine hothers _ _ hlog fun place hfound => ?_
    obtain rfl := Except.ok.inj (hplace.symm.trans hfound)
    exact hapart

end Artifacts
end StepRecorder
