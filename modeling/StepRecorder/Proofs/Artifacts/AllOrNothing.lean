import StepRecorder.Files.Tree
import StepRecorder.Proofs.Files.Replacement
import StepRecorder.Sink.Artifacts

/-!
A registry is replaced as a whole or not at all, wherever the replacement breaks off and whatever
goes wrong with it, but for one mishap: where the end of the new registry is not stored and nobody
is told, what was stored of it takes the place of the old one.

    after        create   write   sync   rename
    registry     old      old     old    new
    temporary    empty    new     new    nothing
    steps        the same all the time

Where the temporary path is a directory or leads to a device, it breaks off at `create` or at
`sync`; where a directory is in the place of the registry, at `rename`.

Main statement: `registry_old_or_stored`.
-/

namespace StepRecorder

namespace Disk

variable {disk disk' : Disk} {place : Place} {places : List Place} {path : Text}

/-- What stands at a place, with its content. -/
def standing? (disk : Disk) (place : Place) : Option Item := (disk.at? place).map disk.item

/-- What stands at the end of a path, where a link is not followed. -/
def held? (disk : Disk) (path : Text) : Option Item :=
  (disk.ownPlace? path).toOption.bind disk.standing?

/-- What a path leads to, through all links. -/
def shown? (disk : Disk) (path : Text) : Option Item :=
  (disk.place? path).toOption.bind disk.standing?

namespace Spares

theorem standing?_eq (h : Spares places disk disk') (hplace : disk.IsApart places place) :
    disk'.standing? place = disk.standing? place := by
  unfold standing?
  rw [h.at? place hplace.notMem]
  cases hentry : disk.at? place with
  | none => rfl
  | some entry =>
    cases entry with
    | file id => simp [item, h.content place id hplace hentry]
    | _ => rfl

/-- At the end of a path the same stands as before, if it does at the place where the path leads. -/
theorem bind_standing?_eq {aim : Aim} {names : List Text} (h : Spares places disk disk')
    (hpath : ∀ place, disk.follow aim path names = .ok place →
      disk'.standing? place = disk.standing? place) :
    (disk'.follow aim path names).toOption.bind disk'.standing?
      = (disk.follow aim path names).toOption.bind disk.standing? := by
  cases hold : disk.follow aim path names with
  | ok place =>
    rw [h.follow hold]
    exact hpath place hold
  | error error =>
    cases hnew : disk'.follow aim path names with
    | ok place => cases hold.symm.trans (h.follow_iff.mp hnew)
    | error error => rfl

theorem held?_eq (h : Spares places disk disk')
    (hpath : ∀ place, disk.ownPlace? path = .ok place →
      disk'.standing? place = disk.standing? place) :
    disk'.held? path = disk.held? path := h.bind_standing?_eq hpath

theorem shown?_eq (h : Spares places disk disk')
    (hpath : ∀ place, disk.place? path = .ok place →
      disk'.standing? place = disk.standing? place) :
    disk'.shown? path = disk.shown? path := h.bind_standing?_eq hpath

end Spares
end Disk

/-- A replacement leaves alone what is neither the file that is replaced nor the temporary one. -/
theorem Replacement.Replaced.standing?_eq {disk after : Disk} {path : Text} {bytes : Bytes}
    {other : Place} (h : Replaced disk path bytes after) (hne : disk.ownPlace? path ≠ .ok other)
    (hother : disk.IsApart (ownPlaces disk (temporaryPath path)) other) :
    after.standing? other = disk.standing? other := by
  obtain ⟨place, temporary, id, hplace, htemporary, hspares, hfiles, -⟩ := h
  rw [ownPlaces_eq htemporary] at hother
  have hnot : other ∉ [temporary, place] := by
    have hneTemporary := hother.notMem
    simp only [List.mem_cons, List.not_mem_nil, or_false, not_or] at hneTemporary ⊢
    refine ⟨hneTemporary, ?_⟩
    rintro rfl
    exact hne hplace
  unfold Disk.standing?
  rw [hspares.at? other hnot]
  cases hentry : disk.at? other with
  | none => rfl
  | some entry =>
    cases entry with
    | file file => simp [Disk.item, hfiles other file hother hentry]
    | _ => rfl

namespace Artifacts

open Replacement (temporaryPath operations ownPlaces LinksToDevice IsReplaceable Beside Replaced)

/-- The three paths are different ones, and lead to different files: the place of the registry, that
of the script and what the script leads to are apart from the temporary one. -/
structure Apart (disk : Disk) (registry steps : Text) : Prop
    extends Replacement.Apart disk registry where
  steps : ∀ place, disk.ownPlace? steps = .ok place ∨ disk.place? steps = .ok place →
    disk.ownPlace? registry ≠ .ok place
      ∧ disk.IsApart (ownPlaces disk (temporaryPath registry)) place

/-- Whether a path holds and shows the same on both disks. -/
def SameAt (path : Text) (disk disk' : Disk) : Prop :=
  disk'.held? path = disk.held? path ∧ disk'.shown? path = disk.shown? path

variable {disk after : Disk} {registry steps : Text} {bytes : Bytes}
  {place temporary script : Place}

namespace Apart

/-- Where no file stands at the temporary place, three different places are enough. -/
theorem of_places (hsound : disk.IsSound) (hregistry : disk.ownPlace? registry = .ok place)
    (hunlinked : ∀ target, disk.at? place ≠ some (.link target))
    (htemporary : disk.ownPlace? (temporaryPath registry) = .ok temporary)
    (hlink : LinksToDevice disk (temporaryPath registry))
    (hfile : ∀ id, disk.at? temporary ≠ some (.file id))
    (hsteps : disk.ownPlace? steps = .ok script) (hscript : disk.place? steps = .ok script)
    (hdistinct : [place, temporary, script].Nodup) : Apart disk registry steps := by
  simp only [List.nodup_cons, List.mem_cons, List.not_mem_nil, or_false, not_or] at hdistinct
  obtain ⟨⟨hne, hneScript⟩, hneTemporary, -⟩ := hdistinct
  have hapart : ∀ other, other ≠ temporary →
      disk.IsApart (ownPlaces disk (temporaryPath registry)) other := by
    intro other hother
    rw [Replacement.ownPlaces_eq htemporary]
    refine ⟨by simpa using hother, fun found hfound => ?_⟩
    obtain rfl := List.mem_singleton.mp hfound
    exact Disk.not_sharesFile hfile
  refine ⟨⟨hsound, ?_, hlink, ?_⟩, ?_⟩
  · rintro found target hfound
    obtain rfl := Except.ok.inj (hregistry.symm.trans hfound)
    exact hunlinked target
  · rintro found hfound
    obtain rfl := Except.ok.inj (hregistry.symm.trans hfound)
    exact hapart place hne
  · rintro found hfound
    obtain rfl : script = found := by
      rcases hfound with hfound | hfound
      · exact Except.ok.inj (hsteps.symm.trans hfound)
      · exact Except.ok.inj (hscript.symm.trans hfound)
    rw [hregistry]
    exact ⟨fun heq => hneScript (Except.ok.inj heq), hapart script (Ne.symm hneTemporary)⟩

theorem sameAt_steps (h : Apart disk registry steps) {places : List Place}
    (hspares : disk.Spares places after)
    (hstanding : ∀ place, disk.ownPlace? registry ≠ .ok place →
      disk.IsApart (ownPlaces disk (temporaryPath registry)) place →
      after.standing? place = disk.standing? place) : SameAt steps disk after := by
  have hsteps : ∀ place, disk.ownPlace? steps = .ok place ∨ disk.place? steps = .ok place →
      after.standing? place = disk.standing? place :=
    fun place hplace => hstanding place (h.steps place hplace).1 (h.steps place hplace).2
  exact ⟨hspares.held?_eq fun place hplace => hsteps place (.inl hplace),
    hspares.shown?_eq fun place hplace => hsteps place (.inr hplace)⟩

/-- Before the rename, the registry and the script are as they were. -/
theorem of_beside (h : Apart disk registry steps) {progress : Replacement.Progress}
    (hbeside : Beside disk (temporaryPath registry) progress) :
    progress.disk.held? registry = disk.held? registry ∧ SameAt steps disk progress.disk :=
  ⟨hbeside.spares.held?_eq fun place hplace =>
      hbeside.spares.standing?_eq (h.distinct place hplace),
    h.sameAt_steps hbeside.spares fun _ _ hapart => hbeside.spares.standing?_eq hapart⟩

/-- After the rename, the registry is what was stored, and the script is as it was. -/
theorem of_replaced (h : Apart disk registry steps)
    (hreplaced : Replaced disk registry bytes after) :
    after.held? registry = some (.file bytes) ∧ after.held? (temporaryPath registry) = none
      ∧ SameAt steps disk after := by
  have hsteps : ∀ place, disk.ownPlace? registry ≠ .ok place →
      disk.IsApart (ownPlaces disk (temporaryPath registry)) place →
      after.standing? place = disk.standing? place := fun _ => hreplaced.standing?_eq
  obtain ⟨place, temporary, id, hplace, htemporary, hspares, -, hgone, hstands, hcontent⟩ :=
    hreplaced
  have hnew : after.ownPlace? registry = .ok place := hspares.follow hplace
  have hnone : after.ownPlace? (temporaryPath registry) = .ok temporary :=
    hspares.follow htemporary
  refine ⟨?_, ?_, h.sameAt_steps hspares hsteps⟩
  · simp [Disk.held?, hnew, Except.toOption, Disk.standing?, hstands, Disk.item, hcontent]
  · simp [Disk.held?, hnone, Except.toOption, Disk.standing?, hgone]

end Apart

/-- After any number of the operations, whatever goes wrong with them, a registry path holds what it
held or what was stored of the new registry, and the script is the same. If the replacement fails,
the path holds what it held, and so does every place apart from the temporary one. If it succeeds,
the path holds what was stored, with no temporary file left. It succeeds where a temporary file can
be made, no directory is in the place of the registry and nobody is told of a mishap. What was
stored is the new registry, unless a write broke off before its end. -/
theorem registry_old_or_stored (mishaps : Replacement.Mishaps) (store : Store)
    (h : Apart store.disk store.artifacts.registry store.artifacts.steps)
    (entries : List (Text × Text)) :
    let registry := store.artifacts.registry
    let json := Text.encode (Registry.render entries)
    let stored := Replacement.stored mishaps json
    let done := replaceRegistryDespite mishaps store entries
    (∀ n, let cut := (Replacement.run mishaps { disk := store.disk }
            ((operations registry json).take n)).1
        (cut.disk.held? registry = store.disk.held? registry
            ∨ cut.disk.held? registry = some (.file stored))
          ∧ SameAt store.artifacts.steps store.disk cut.disk)
      ∧ (∀ failure, done.result = .error failure →
          done.store.disk.held? registry = store.disk.held? registry
            ∧ SameAt store.artifacts.steps store.disk done.store.disk
            ∧ ∀ place, store.disk.IsApart (ownPlaces store.disk (temporaryPath registry)) place →
                done.store.disk.standing? place = store.disk.standing? place)
      ∧ (done.result = .ok () →
          done.store.disk.held? registry = some (.file stored)
            ∧ done.store.disk.held? (temporaryPath registry) = none)
      ∧ (done.result = .ok () ↔ IsReplaceable store.disk registry ∧ mishaps.AreUntold json)
      ∧ (stored = json
          ↔ ∀ count error, mishaps.write = some (count, error) → json.length ≤ count) := by
  intro registry json stored done
  refine ⟨fun n => ?_, fun failure herror => ?_, fun hok => ?_, h.toApart.run_isOk_iff,
    Replacement.stored_eq_self_iff json⟩
  · rcases h.toApart.run_take_cases json n with hbeside | hreplaced
    · obtain ⟨hregistry, hsteps⟩ := h.of_beside hbeside
      exact ⟨Or.inl hregistry, hsteps⟩
    · obtain ⟨hregistry, -, hsteps⟩ := h.of_replaced hreplaced
      exact ⟨Or.inr hregistry, hsteps⟩
  · have hbeside := h.toApart.beside_of_error herror
    obtain ⟨hregistry, hsteps⟩ := h.of_beside hbeside
    exact ⟨hregistry, hsteps, fun place hplace => hbeside.spares.standing?_eq hplace⟩
  · obtain ⟨hregistry, htemporary, -⟩ := h.of_replaced (h.toApart.replaced_of_ok hok)
    exact ⟨hregistry, htemporary⟩

/-- The temporary path is a link to a device without space: the registry stays what it was, and the
link is left. -/
theorem registry_old_on_full_device :
    let home : Place := ["home".toList]
    let registry := "locators.json".toList
    let temporary := "locators.json.tmp".toList
    let steps := "steps.txt".toList
    let old := Text.encode "{}".toList
    let disk := (Handle.file 0).write
      ((((Disk.ofCurrent "home".toList).putFile (home ++ [registry])).putFile (home ++ [steps])).put
        (home ++ [temporary]) (.link "/dev/full".toList)) 0 old
    let store : Store := ⟨disk, { registry, steps, script := .file 1 }⟩
    let done := replaceRegistryDespite {} store [("Ok".toList, "//a".toList)]
    Apart disk registry steps
      ∧ done.result = .error (failure temporary .invalid)
      ∧ done.store.disk.held? registry = some (.file old)
      ∧ done.store.disk.shown? steps = some (.file [])
      ∧ done.store.disk.held? temporary = some (.link "/dev/full".toList) := by
  intro home registry temporary steps old disk store done
  have hregistry : disk.ownPlace? registry = .ok (home ++ [registry]) := by decide +kernel
  have htemporary : disk.ownPlace? (temporaryPath registry) = .ok (home ++ [temporary]) := by
    decide +kernel
  have hsteps : disk.ownPlace? steps = .ok (home ++ [steps]) := by decide +kernel
  have hplace : disk.place? steps = .ok (home ++ [steps]) := by decide +kernel
  have hsound : disk.IsSound := by
    have hfiles : (((Disk.ofCurrent "home".toList).putFile (home ++ [registry])).putFile
        (home ++ [steps])).IsSound :=
      ((Disk.IsSound.ofCurrent "home".toList).putFile rfl rfl).putFile rfl rfl
    refine (hfiles.put rfl rfl ?_).write _ _ _
    rintro id ⟨⟩
  have hlink : LinksToDevice disk (temporaryPath registry) := by
    rintro place target - -
    exact ⟨["dev".toList, "full".toList], .full, by decide +kernel, by decide +kernel⟩
  have hfile : disk.at? (home ++ [registry]) = some (.file 0) := by decide +kernel
  have hplaced : disk.at? (home ++ [temporary]) = some (.link "/dev/full".toList) := by
    decide +kernel
  have hapart : Apart disk registry steps :=
    .of_places hsound hregistry (by simp [hfile]) htemporary hlink (by simp [hplaced]) hsteps hplace
      (by decide +kernel)
  have herror : done.result = .error (failure temporary .invalid) := by decide +kernel
  have hold : store.disk.held? registry = some (.file old) := by decide +kernel
  have hempty : store.disk.shown? steps = some (.file []) := by decide +kernel
  have hleft : done.store.disk.held? temporary = some (.link "/dev/full".toList) := by
    decide +kernel
  obtain ⟨hkept, ⟨-, hscript⟩, -⟩ :=
    (registry_old_or_stored {} store hapart [("Ok".toList, "//a".toList)]).2.1 _ herror
  refine ⟨hapart, herror, ?_, ?_, hleft⟩
  · simp only [done]
    exact hkept.trans hold
  · simp only [done]
    exact hscript.trans hempty

/-- Only five bytes of the new registry find space, and nobody is told: they take the place of the
old one, and the replacement succeeds. -/
theorem registry_cut_off_by_lost_write :
    let home : Place := ["home".toList]
    let registry := "locators.json".toList
    let steps := "steps.txt".toList
    let old := Text.encode "{}".toList
    let disk := (Handle.file 0).write
      (((Disk.ofCurrent "home".toList).putFile (home ++ [registry])).putFile (home ++ [steps]))
      0 old
    let store : Store := ⟨disk, { registry, steps, script := .file 1 }⟩
    let entries := [("Ok".toList, "//a".toList)]
    let json := Text.encode (Registry.render entries)
    let done := replaceRegistryDespite { write := some (5, .noSpace) } store entries
    Apart disk registry steps
      ∧ done.result = .ok ()
      ∧ done.store.disk.held? registry = some (.file (json.take 5))
      ∧ done.store.disk.held? registry ≠ some (.file json)
      ∧ done.store.disk.held? registry ≠ disk.held? registry := by
  intro home registry steps old disk store entries json done
  have hsound : disk.IsSound :=
    (((Disk.IsSound.ofCurrent "home".toList).putFile rfl rfl).putFile rfl rfl).write _ _ _
  have hregistry : disk.ownPlace? registry = .ok (home ++ [registry]) := by decide +kernel
  have hsteps : disk.ownPlace? steps = .ok (home ++ [steps]) := by decide +kernel
  have hplace : disk.place? steps = .ok (home ++ [steps]) := by decide +kernel
  have hfile : disk.at? (home ++ [registry]) = some (.file 0) := by decide +kernel
  have hnone : disk.at? (home ++ ["locators.json.tmp".toList]) = none := by decide +kernel
  have htemporary : disk.ownPlace? (temporaryPath registry)
      = .ok (home ++ ["locators.json.tmp".toList]) := by decide +kernel
  have hlink : LinksToDevice disk (temporaryPath registry) := by
    intro place target hfound htarget
    obtain rfl := Except.ok.inj (htemporary.symm.trans hfound)
    cases hnone.symm.trans htarget
  have hunused : ∀ id, disk.at? (home ++ ["locators.json.tmp".toList]) ≠ some (.file id) := by
    rw [hnone]
    exact fun _ hid => nomatch hid
  have hapart : Apart disk registry steps :=
    .of_places hsound hregistry (by simp [hfile]) htemporary hlink hunused hsteps hplace
      (by decide +kernel)
  exact ⟨hapart, by decide +kernel, by decide +kernel, by decide +kernel, by decide +kernel⟩

end Artifacts
end StepRecorder
