import Mathlib.Data.List.TakeDrop
import StepRecorder.Files.Replacement
import StepRecorder.Proofs.Files.Spares

/-!
The replacement of a file by way of a temporary one, whatever goes wrong with it. Up to the rename,
only the temporary place can be touched; the rename then either touches nothing or puts what was
stored there in place of the old content.

    create ─▶ an empty file at the temporary place
    write  ─▶ the new content in it, or what of it was stored
    rename ─▶ nothing at the temporary place, that file at the other one

Main statements: `Beside.run` and `Apart.run_take_cases`: wherever it breaks off, nothing else is
touched; `Apart.run_isOk_iff`: it succeeds where nothing stands in the way and nobody is told of a
mishap.
-/

namespace StepRecorder.Replacement

open Disk

variable {mishaps : Mishaps} {disk : Disk} {path : Text} {place temporary : Place}

/-- What a file holds after a write. -/
def stored (mishaps : Mishaps) (bytes : Bytes) : Bytes :=
  match mishaps.write with
  | some (count, _) => bytes.take count
  | none => bytes

/-- Mishaps that nobody is told of: at most the last piece of a write is not stored. -/
structure Mishaps.AreUntold (mishaps : Mishaps) (bytes : Bytes) : Prop where
  create : mishaps.create = none
  write : ∀ count error, mishaps.write = some (count, error) → isTold count bytes = false
  sync : mishaps.sync = none
  rename : mishaps.rename = none

theorem Mishaps.areUntold_of_none (bytes : Bytes) : Mishaps.AreUntold {} bytes :=
  ⟨rfl, (fun _ _ hwrite => nomatch hwrite), rfl, rfl⟩

/-- What is stored is all there is, if the write does not break off before its end. -/
theorem stored_eq_self_iff (bytes : Bytes) :
    stored mishaps bytes = bytes
      ↔ ∀ count error, mishaps.write = some (count, error) → bytes.length ≤ count := by
  unfold stored
  cases mishaps.write with
  | none => simp
  | some broken =>
    obtain ⟨count, error⟩ := broken
    simp

theorem isTold_of_length_le {count : Nat} {bytes : Bytes} (h : bytes.length ≤ count) :
    isTold count bytes = false := by
  have hpieces : (bytes.length - 1) / maxPiece ≤ count / maxPiece :=
    Nat.div_le_div_right (by omega)
  simpa [isTold] using hpieces

@[simp] theorem attempt_eq_ok_iff {α : Type} {mishap : Option SystemError}
    {result : Except SystemError α} {value : α} :
    attempt path mishap result = .ok value ↔ mishap = none ∧ result = .ok value := by
  cases mishap <;> cases result <;> simp [attempt]

/-- The operations that come before the rename. -/
def writing (path : Text) (bytes : Bytes) : List Operation :=
  [.create path, .write path bytes, .sync path]

theorem operations_eq (path : Text) (bytes : Bytes) :
    operations path bytes
      = writing (temporaryPath path) bytes ++ [.rename (temporaryPath path) path] := rfl

theorem run_append (progress : Progress) (operations more : List Operation) :
    run mishaps progress (operations ++ more)
      = match run mishaps progress operations with
        | (progress, .ok ()) => run mishaps progress more
        | (progress, .error failure) => (progress, .error failure) := by
  induction operations generalizing progress with
  | nil => rfl
  | cons operation operations ih =>
    simp only [List.cons_append, run]
    obtain ⟨next, done | failure⟩ := perform mishaps progress operation
    · rfl
    · exact ih next

/-- A rename moves the file, or fails and changes nothing. -/
theorem run_rename_cases (mishaps : Mishaps) (progress : Progress) (path target : Text) :
    (∃ renamed, mishaps.rename = none ∧ progress.disk.rename? path target = .ok renamed
        ∧ run mishaps progress [.rename path target]
          = ({ progress with disk := renamed }, .ok ()))
      ∨ ∃ failure, run mishaps progress [.rename path target] = (progress, .error failure) := by
  simp only [run, perform]
  cases hattempt : attempt target mishaps.rename (progress.disk.rename? path target) with
  | error failure => exact Or.inr ⟨failure, rfl⟩
  | ok renamed =>
    obtain ⟨hrename, hrenamed⟩ := attempt_eq_ok_iff.mp hattempt
    exact Or.inl ⟨renamed, hrename, hrenamed, rfl⟩

/-! ### Writing -/

/-- A write to a file stores what can be stored. It fails if another piece is waiting then. -/
theorem perform_write_of_file (mishaps : Mishaps) (progress : Progress) {id : Nat}
    (hcreated : progress.created = .file id) (path : Text) (bytes : Bytes) :
    let done := perform mishaps progress (.write path bytes)
    done.1.created = .file id
      ∧ done.1.disk = (Handle.file id).write progress.disk 0 (stored mishaps bytes)
      ∧ (done.2 = .ok ()
        ↔ ∀ count error, mishaps.write = some (count, error) → isTold count bytes = false) := by
  simp only [perform, hcreated]
  cases hwrite : mishaps.write with
  | none =>
    have hbreak : breakOff? mishaps (.file id) bytes = none := by
      simp [breakOff?, Handle.written, hwrite]
    simp [hbreak, stored, hwrite]
  | some broken =>
    obtain ⟨count, error⟩ := broken
    by_cases hcount : count < bytes.length
    · have hbreak : breakOff? mishaps (.file id) bytes = some (count, error) := by
        simp [breakOff?, Handle.written, hwrite, hcount]
      cases htold : isTold count bytes <;> simp [hbreak, stored, hwrite, htold]
    · have hle : bytes.length ≤ count := Nat.le_of_not_lt hcount
      have hbreak : breakOff? mishaps (.file id) bytes = none := by
        simp [breakOff?, Handle.written, hwrite, hle]
      simp [hbreak, stored, hwrite, List.take_of_length_le hle, isTold_of_length_le hle]

theorem created_perform_write (progress : Progress) (path : Text) (bytes : Bytes) :
    (perform mishaps progress (.write path bytes)).1.created = progress.created := by
  simp only [perform]
  split
  · rfl
  · split <;> rfl

/-- What follows the creation of the temporary file. -/
theorem run_writing_of_created {progress : Progress}
    (hcreate : perform mishaps { disk } (.create path) = (progress, .ok ())) (bytes : Bytes) :
    let written := perform mishaps progress (.write path bytes)
    let done := run mishaps { disk } (writing path bytes)
    done.1 = written.1 ∧ (done.2 = .ok () ↔ written.2 = .ok ()
      ∧ attempt path mishaps.sync progress.created.synced = .ok ()) := by
  intro written done
  have hcreated : written.1.created = progress.created := created_perform_write ..
  have hdone : done = run mishaps progress [.write path bytes, .sync path] := by
    simp only [done, writing, run, hcreate]
  have hwritten : perform mishaps progress (.write path bytes) = (written.1, written.2) := rfl
  rw [hdone, run, hwritten]
  cases written.2 with
  | error failure => simp
  | ok done =>
    simp only [run, perform, hcreated]
    cases attempt path mishaps.sync progress.created.synced <;> simp

/-- Creating the temporary file at a plain place and writing to it. -/
theorem exists_written (h : disk.IsSound) (hpath : disk.filePlace? path = .ok temporary)
    (hplain : disk.IsPlain temporary) (hcreate : mishaps.create = none) (bytes : Bytes) :
    let done := run mishaps { disk } (writing path bytes)
    ∃ id, done.1.disk.IsSound ∧ disk.Spares [temporary] done.1.disk
      ∧ done.1.disk.at? temporary = some (.file id)
      ∧ done.1.disk.content id = stored mishaps bytes
      ∧ (done.2 = .ok () ↔ mishaps.sync = none
        ∧ ∀ count error, mishaps.write = some (count, error) → isTold count bytes = false) := by
  intro done
  obtain ⟨created, id, hopen, hsound, hspares, hfile, hempty⟩ :=
    openWrite?_of_isPlain h hpath hplain true
  have hperform : perform mishaps { disk } (.create path)
      = (⟨created, .file id, none⟩, .ok ()) := by
    simp [perform, attempt, hcreate, hopen]
  obtain ⟨hprogress, hresult⟩ := run_writing_of_created hperform bytes
  obtain ⟨-, hdisk, hwritten⟩ :=
    perform_write_of_file mishaps ⟨created, .file id, none⟩ rfl path bytes
  have hafter : done.1.disk = (Handle.file id).write created 0 (stored mishaps bytes) := by
    rw [← hdisk, ← hprogress]
  refine ⟨id, ?_, ?_, ?_, ?_, ?_⟩
  · rw [hafter]
    exact hsound.write ..
  · rw [hafter]
    exact hspares.trans (spares_write hfile ..)
  · rw [hafter]
    exact hfile
  · rw [hafter, Handle.content_write_self, hempty rfl]
    exact Handle.overwrite_end [] _
  · rw [hresult, hwritten, attempt_eq_ok_iff]
    simp [Handle.synced, and_comm]

/-- The temporary file can be written and made permanent where its place is plain, unless there is
a mishap. -/
theorem run_writing_isOk_iff (h : disk.IsSound) (bytes : Bytes) :
    (run mishaps { disk } (writing path bytes)).2 = .ok ()
      ↔ (∃ temporary, disk.filePlace? path = .ok temporary ∧ disk.IsPlain temporary)
        ∧ mishaps.create = none ∧ mishaps.sync = none
        ∧ ∀ count error, mishaps.write = some (count, error) → isTold count bytes = false := by
  cases hcreate : mishaps.create with
  | some error => simp [writing, run, perform, attempt, hcreate]
  | none =>
    by_cases hready : ∃ temporary, disk.filePlace? path = .ok temporary ∧ disk.IsPlain temporary
    · obtain ⟨temporary, hpath, hplain⟩ := hready
      obtain ⟨-, -, -, -, -, hresult⟩ := exists_written h hpath hplain hcreate bytes
      rw [hresult]
      exact ⟨fun hok => ⟨⟨temporary, hpath, hplain⟩, rfl, hok⟩, fun hok => hok.2.2⟩
    · have hfails : (run mishaps { disk } (writing path bytes)).2 ≠ .ok () := by
        obtain ⟨error, hopen⟩ | ⟨device, hopen⟩ := openWrite?_of_not_isPlain
          (fun place hpath hplain => hready ⟨place, hpath, hplain⟩) true
        · simp [writing, run, perform, attempt, hopen, hcreate]
        · have hperform : perform mishaps { disk } (.create path)
              = (⟨disk, .device device, none⟩, .ok ()) := by
            simp [perform, attempt, hcreate, hopen]
          rw [Ne, (run_writing_of_created hperform bytes).2, attempt_eq_ok_iff]
          rintro ⟨-, -, hsynced⟩
          cases hsynced
      exact ⟨fun hok => absurd hok hfails, fun hok => absurd hok.1 hready⟩

/-- Where the temporary place is plain and no way goes on at the other one, the replacement
succeeds, unless somebody is told of a mishap. -/
theorem run_of_isClosed (h : disk.IsSound)
    (hpath : disk.ownPlace? path = .ok place) (hclosed : IsClosed disk.at? place)
    (hfile : disk.filePlace? (temporaryPath path) = .ok temporary)
    (hown : disk.ownPlace? (temporaryPath path) = .ok temporary)
    (htemporary : disk.IsPlain temporary) (hne : temporary ≠ place) {bytes : Bytes}
    (huntold : mishaps.AreUntold bytes) :
    ∃ progress id, run mishaps { disk } (operations path bytes) = (progress, .ok ())
      ∧ progress.disk.IsSound ∧ disk.Spares [temporary, place] progress.disk
      ∧ (∀ other id, disk.IsApart [temporary] other → disk.at? other = some (.file id) →
          progress.disk.content id = disk.content id)
      ∧ progress.disk.at? temporary = none ∧ progress.disk.at? place = some (.file id)
      ∧ progress.disk.content id = stored mishaps bytes := by
  obtain ⟨id, hsound, hspares, hwritten, hcontent, hresult⟩ :=
    exists_written h hfile htemporary huntold.create bytes
  have hok := hresult.mpr ⟨huntold.sync, huntold.write⟩
  generalize hdone : run mishaps { disk } (writing (temporaryPath path) bytes) = done at *
  obtain ⟨progress, result⟩ := done
  have hgoal : IsClosed progress.disk.at? place :=
    hspares.isClosed (by simpa using Ne.symm hne) hclosed
  obtain ⟨renamed, hrename, hsound', hspares', hgone, hplace, hkept⟩ :=
    rename?_of_isClosed hsound hwritten (hspares.follow hown) (hspares.follow hpath) hne hgoal
  refine ⟨{ progress with disk := renamed }, id, ?_, hsound', ?_, ?_, hgone, hplace,
    (hkept id).trans hcontent⟩
  · rw [operations_eq, run_append, hdone]
    obtain rfl : result = .ok () := hok
    simp [run, perform, attempt, hrename, huntold.rename]
  · exact (hspares.mono (by simp)).trans hspares'
  · exact fun other _ hapart hid => (hkept _).trans (hspares.content other _ hapart hid)

/-! ### Breaking off -/

/-- Whether an operation concerns the file of a path, or the one that was created last. -/
def Operation.IsBeside (path : Text) : Operation → Prop
  | .create created => created = path
  | .write _ _ | .sync _ => True
  | .rename _ _ => False

theorem isBeside_of_mem_writing {bytes : Bytes} {operation : Operation}
    (h : operation ∈ writing path bytes) : operation.IsBeside path := by
  simp only [writing, List.mem_cons, List.not_mem_nil, or_false] at h
  rcases h with rfl | rfl | rfl <;> trivial

/-- A link at the end of a path leads to a device, if there is one. -/
def LinksToDevice (disk : Disk) (path : Text) : Prop :=
  ∀ place target, disk.ownPlace? path = .ok place → disk.at? place = some (.link target) →
    ∃ goal device, disk.filePlace? path = .ok goal ∧ disk.at? goal = some (.device device)

/-- A path with a plain place at its end, or with a link to a device. -/
theorem LinksToDevice.ownPlace? (h : LinksToDevice disk path)
    (hslash : Path.endsInSlash path = false) (hpath : disk.filePlace? path = .ok place)
    (hplain : disk.IsPlain place) : disk.ownPlace? path = .ok place := by
  refine ownPlace?_of_filePlace? hslash ?_ hpath
  intro found target hfound hlink
  obtain ⟨goal, device, hgoal, hdevice⟩ := h found target hfound hlink
  obtain rfl : place = goal := Except.ok.inj (hpath.symm.trans hgoal)
  rcases hplain with hnone | ⟨id, hfile⟩
  · cases hnone.symm.trans hdevice
  · cases hfile.symm.trans hdevice

/-- The place of the last name of a path, if it has one. -/
def ownPlaces (disk : Disk) (path : Text) : List Place := (disk.ownPlace? path).toOption.toList

theorem mem_ownPlaces : place ∈ ownPlaces disk path ↔ disk.ownPlace? path = .ok place := by
  unfold ownPlaces
  cases disk.ownPlace? path <;> simp [Except.toOption, eq_comm]

theorem ownPlaces_eq (h : disk.ownPlace? path = .ok place) : ownPlaces disk path = [place] := by
  simp [ownPlaces, h, Except.toOption]

/-- Operations so far that went to the temporary file: nothing else has changed, and what is written
to stands there. -/
structure Beside (disk : Disk) (path : Text) (progress : Progress) : Prop where
  sound : progress.disk.IsSound
  spares : disk.Spares (ownPlaces disk path) progress.disk
  created : ∀ id, progress.created = .file id →
    ∃ place, disk.ownPlace? path = .ok place ∧ progress.disk.at? place = some (.file id)

namespace Beside

variable {progress : Progress} {operation : Operation} {operations : List Operation}

theorem start (h : disk.IsSound) (path : Text) : Beside disk path { disk } :=
  ⟨h, .refl _ _, fun _ hid => nomatch hid⟩

theorem linksToDevice (h : Beside disk path progress) (hlink : LinksToDevice disk path) :
    LinksToDevice progress.disk path := by
  intro place target hplace htarget
  have hown : disk.ownPlace? path = .ok place := h.spares.follow_iff.mp hplace
  have hstands : disk.at? place = some (.link target) := (h.spares.ways _ _ rfl).mpr htarget
  obtain ⟨goal, device, hgoal, hdevice⟩ := hlink place target hown hstands
  have hne : goal ≠ place := by
    rintro rfl
    cases hstands.symm.trans hdevice
  refine ⟨goal, device, h.spares.follow hgoal, (h.spares.at? goal fun hmem => ?_).trans hdevice⟩
  exact hne (Except.ok.inj ((mem_ownPlaces.mp hmem).symm.trans hown))

/-- What is opened is a device, or a file at the place of the path. -/
theorem create (h : Beside disk path progress) (hslash : Path.endsInSlash path = false)
    (hlink : LinksToDevice disk path) :
    Beside disk path (perform mishaps progress (.create path)).1 := by
  simp only [perform]
  split
  next opened created hattempt =>
    obtain ⟨-, hopen⟩ := attempt_eq_ok_iff.mp hattempt
    by_cases hplain : ∃ place, progress.disk.filePlace? path = .ok place
        ∧ progress.disk.IsPlain place
    · obtain ⟨place, hpath, hplain⟩ := hplain
      obtain ⟨found, id, hfound, hsound, hspares, hfile, -⟩ :=
        openWrite?_of_isPlain h.sound hpath hplain true
      have hown : disk.ownPlace? path = .ok place :=
        h.spares.follow_iff.mp ((h.linksToDevice hlink).ownPlace? hslash hpath hplain)
      cases hfound.symm.trans hopen
      refine ⟨hsound, h.spares.trans (hspares.mono ?_), ?_⟩
      · simpa using mem_ownPlaces.mpr hown
      · rintro other ⟨⟩
        exact ⟨place, hown, hfile⟩
    · obtain ⟨error, hfails⟩ | ⟨device, hdevice⟩ := openWrite?_of_not_isPlain
        (fun place hpath hopen => hplain ⟨place, hpath, hopen⟩) true
      · cases hfails.symm.trans hopen
      · cases hdevice.symm.trans hopen
        exact ⟨h.sound, h.spares, fun _ hid => nomatch hid⟩
  next => exact h

/-- Whatever is stored of a write, and whoever is told of the rest. -/
theorem store (h : Beside disk path progress) (bytes : Bytes) (untold : Option SystemError) :
    Beside disk path
      ⟨progress.created.write progress.disk 0 bytes, progress.created, untold⟩ := by
  have hat : (progress.created.write progress.disk 0 bytes).at? = progress.disk.at? :=
    at?_of_entries (Handle.entries_write ..)
  refine ⟨h.sound.write .., ?_, fun id hid => ?_⟩
  · cases hcreated : progress.created with
    | directory => exact h.spares
    | device device => exact h.spares
    | file id =>
      obtain ⟨place, hown, hfile⟩ := h.created id hcreated
      exact h.spares.trans ((spares_write hfile 0 bytes).mono
        (by simpa using mem_ownPlaces.mpr hown))
  · rw [hat]
    exact h.created id hid

theorem write (h : Beside disk path progress) (written : Text) (bytes : Bytes) :
    Beside disk path (perform mishaps progress (.write written bytes)).1 := by
  simp only [perform]
  split
  · exact h.store bytes _
  · split
    · exact h.store _ _
    · exact h.store _ _

/-- An operation that concerns the temporary file leaves everything else alone, also if it fails. -/
theorem perform (mishaps : Mishaps) (h : Beside disk path progress)
    (hslash : Path.endsInSlash path = false) (hlink : LinksToDevice disk path)
    (hbeside : operation.IsBeside path) :
    Beside disk path (Replacement.perform mishaps progress operation).1 := by
  cases operation with
  | create created =>
    obtain rfl : created = path := hbeside
    exact h.create hslash hlink
  | write written bytes => exact h.write written bytes
  | sync synced => exact h
  | rename moved target => exact hbeside.elim

/-- Such operations leave everything else alone, wherever they break off. -/
theorem run (mishaps : Mishaps) (h : Beside disk path progress)
    (hslash : Path.endsInSlash path = false) (hlink : LinksToDevice disk path)
    (hbeside : ∀ operation ∈ operations, operation.IsBeside path) :
    Beside disk path (Replacement.run mishaps progress operations).1 := by
  induction operations generalizing progress with
  | nil => exact h
  | cons operation operations ih =>
    obtain ⟨hfirst, hrest⟩ := List.forall_mem_cons.mp hbeside
    have hnext := h.perform mishaps hslash hlink hfirst
    unfold Replacement.run
    split
    next next hperform =>
      rw [hperform] at hnext
      exact ih hnext hrest
    next next failure hperform =>
      rw [hperform] at hnext
      exact hnext

end Beside

/-- The two places of a replacement are different ones, and not names of one file. No link stands at
the first, and a link at the temporary one leads to a device. -/
structure Apart (disk : Disk) (path : Text) : Prop where
  sound : disk.IsSound
  unlinked : ∀ place target, disk.ownPlace? path = .ok place →
    disk.at? place ≠ some (.link target)
  temporary : LinksToDevice disk (temporaryPath path)
  distinct : ∀ place, disk.ownPlace? path = .ok place →
    disk.IsApart (ownPlaces disk (temporaryPath path)) place

/-- Whether a file can be made at the temporary place, and moved to the other one. -/
def IsReplaceable (disk : Disk) (path : Text) : Prop :=
  (∃ temporary, disk.filePlace? (temporaryPath path) = .ok temporary ∧ disk.IsPlain temporary)
    ∧ ∃ place, disk.ownPlace? path = .ok place ∧ disk.at? place ≠ some .directory

/-- A disk after a replacement: what was stored stands at the place of the path, nothing at the
temporary one, and everything else is as before. -/
def Replaced (disk : Disk) (path : Text) (bytes : Bytes) (after : Disk) : Prop :=
  ∃ place temporary id, disk.ownPlace? path = .ok place
    ∧ disk.ownPlace? (temporaryPath path) = .ok temporary
    ∧ disk.Spares [temporary, place] after
    ∧ (∀ other file, disk.IsApart [temporary] other → disk.at? other = some (.file file) →
        after.content file = disk.content file)
    ∧ after.at? temporary = none ∧ after.at? place = some (.file id) ∧ after.content id = bytes

theorem endsInSlash_temporaryPath (path : Text) :
    Path.endsInSlash (temporaryPath path) = false := by
  have hname : (temporaryName path).getLast? = some 'p' := by
    simp [temporaryName, List.getLast?_append]
  have hjoin : ∀ directory, (Path.join directory (temporaryName path)).getLast? = some 'p' := by
    intro directory
    unfold Path.join
    split
    · simp [List.getLast?_append, hname]
    · simp [List.getLast?_append, List.getLast?_cons, hname]
  have hlast : (temporaryPath path).getLast? = some 'p' := by
    unfold temporaryPath Path.sibling
    split
    · exact hjoin _
    · exact hjoin _
  simp [Path.endsInSlash, hlast]

namespace Apart

variable {bytes : Bytes}

theorem ne_temporary (h : Apart disk path) (hplace : disk.ownPlace? path = .ok place)
    (htemporary : disk.ownPlace? (temporaryPath path) = .ok temporary) : temporary ≠ place := by
  rintro rfl
  exact (h.distinct _ hplace).notMem (mem_ownPlaces.mpr htemporary)

/-- Before the rename, wherever it breaks off. -/
theorem beside_take (h : Apart disk path) (bytes : Bytes) (n : Nat) :
    Beside disk (temporaryPath path)
      (run mishaps { disk } ((writing (temporaryPath path) bytes).take n)).1 :=
  (Beside.start h.sound _).run mishaps (endsInSlash_temporaryPath path) h.temporary
    fun _ hmem => isBeside_of_mem_writing (List.mem_of_mem_take hmem)

theorem run_of_isReplaceable (h : Apart disk path) (hready : IsReplaceable disk path)
    (huntold : mishaps.AreUntold bytes) :
    let done := run mishaps { disk } (operations path bytes)
    done.2 = .ok () ∧ Replaced disk path (stored mishaps bytes) done.1.disk := by
  intro done
  obtain ⟨⟨temporary, hfile, hplain⟩, place, hplace, hdirectory⟩ := hready
  have hown := h.temporary.ownPlace? (endsInSlash_temporaryPath path) hfile hplain
  have hne : temporary ≠ place := h.ne_temporary hplace hown
  have hclosed : IsClosed disk.at? place := by
    rcases way_cases disk.at? place with hentry | ⟨target, hentry⟩ | hclosed
    · exact absurd hentry hdirectory
    · exact absurd hentry (h.unlinked place target hplace)
    · exact hclosed
  obtain ⟨progress, id, hrun, -, hspares, hfiles, hgone, hstands, hcontent⟩ :=
    run_of_isClosed h.sound hplace hclosed hfile hown hplain hne huntold
  have hdone : done = (progress, .ok ()) := hrun
  rw [hdone]
  exact ⟨rfl, place, temporary, id, hplace, hown, hspares, hfiles, hgone, hstands, hcontent⟩

/-- A replacement that fails has not come to the rename, or left everything as it was there. -/
theorem run_of_error {failure : Failure}
    (herror : (run mishaps { disk } (operations path bytes)).2 = .error failure) :
    (run mishaps { disk } (operations path bytes)).1
      = (run mishaps { disk } (writing (temporaryPath path) bytes)).1 := by
  rw [operations_eq, run_append] at herror ⊢
  generalize run mishaps { disk } (writing (temporaryPath path) bytes) = done at herror ⊢
  obtain ⟨progress, failed | done⟩ := done
  · rfl
  · obtain ⟨renamed, -, -, hrun⟩ | ⟨failure, hrun⟩ :=
      run_rename_cases mishaps progress (temporaryPath path) path
    · simp [hrun] at herror
    · simp [hrun]

/-- A replacement that fails has touched the temporary place at most. -/
theorem beside_of_error (h : Apart disk path) {failure : Failure}
    (herror : (run mishaps { disk } (operations path bytes)).2 = .error failure) :
    Beside disk (temporaryPath path) (run mishaps { disk } (operations path bytes)).1 := by
  rw [run_of_error herror]
  exact h.beside_take bytes 3

/-- A replacement that succeeds has found nothing in its way, and nobody was told of a mishap. -/
theorem isReplaceable_of_run (h : Apart disk path)
    (hok : (run mishaps { disk } (operations path bytes)).2 = .ok ()) :
    IsReplaceable disk path ∧ mishaps.AreUntold bytes := by
  rw [operations_eq, run_append] at hok
  have hwriting : (run mishaps { disk } (writing (temporaryPath path) bytes)).2 = .ok () := by
    revert hok
    obtain ⟨progress, failed | done⟩ := run mishaps { disk } (writing (temporaryPath path) bytes)
    · exact fun hok => nomatch hok
    · exact fun _ => rfl
  obtain ⟨⟨temporary, hfile, hplain⟩, hcreate, hsync, hwrite⟩ :=
    (run_writing_isOk_iff h.sound bytes).mp hwriting
  have hown := h.temporary.ownPlace? (endsInSlash_temporaryPath path) hfile hplain
  obtain ⟨id, -, hspares, hwritten, -⟩ := exists_written h.sound hfile hplain hcreate bytes
  generalize run mishaps { disk } (writing (temporaryPath path) bytes) = done at *
  obtain ⟨progress, result⟩ := done
  obtain rfl : result = .ok () := hwriting
  obtain ⟨hrename, renamed, hrenamed⟩ : mishaps.rename = none
      ∧ ∃ renamed, progress.disk.rename? (temporaryPath path) path = .ok renamed := by
    obtain ⟨renamed, hrename, hrenamed, -⟩ | ⟨failure, hrun⟩ :=
      run_rename_cases mishaps progress (temporaryPath path) path
    · exact ⟨hrename, renamed, hrenamed⟩
    · simp [hrun] at hok
  refine ⟨⟨⟨temporary, hfile, hplain⟩, ?_⟩, hcreate, hwrite, hsync, hrename⟩
  by_contra hnot
  obtain ⟨error, hfails⟩ :
      ∃ error, progress.disk.rename? (temporaryPath path) path = .error error := by
    refine rename?_of_directory (hspares.follow hown) hwritten fun place hplace => ?_
    have hpath : disk.ownPlace? path = .ok place := hspares.follow_iff.mp hplace
    rw [hspares.at? place (by simpa using (h.ne_temporary hpath hown).symm)]
    by_contra hentry
    exact hnot ⟨place, hpath, hentry⟩
  cases hfails.symm.trans hrenamed

/-- A replacement succeeds where nothing is in its way and nobody is told of a mishap, and only
there. -/
theorem run_isOk_iff (h : Apart disk path) :
    (run mishaps { disk } (operations path bytes)).2 = .ok ()
      ↔ IsReplaceable disk path ∧ mishaps.AreUntold bytes :=
  ⟨h.isReplaceable_of_run, fun hready => (h.run_of_isReplaceable hready.1 hready.2).1⟩

theorem replaced_of_ok (h : Apart disk path)
    (hok : (run mishaps { disk } (operations path bytes)).2 = .ok ()) :
    Replaced disk path (stored mishaps bytes)
      (run mishaps { disk } (operations path bytes)).1.disk := by
  obtain ⟨hready, huntold⟩ := h.isReplaceable_of_run hok
  exact (h.run_of_isReplaceable hready huntold).2

/-- Some operations of a replacement, or all of them: only the temporary place is touched, or the
replacement is done. -/
theorem run_take_cases (h : Apart disk path) (bytes : Bytes) (n : Nat) :
    let cut := (run mishaps { disk } ((operations path bytes).take n)).1
    Beside disk (temporaryPath path) cut
      ∨ Replaced disk path (stored mishaps bytes) cut.disk := by
  by_cases hn : n ≤ (writing (temporaryPath path) bytes).length
  · rw [operations_eq, List.take_append_of_le_length hn]
    exact Or.inl (h.beside_take bytes n)
  · rw [List.take_of_length_le (by simp [operations_eq]; omega)]
    cases hresult : (run mishaps { disk } (operations path bytes)).2 with
    | ok done => exact Or.inr (h.replaced_of_ok hresult)
    | error failure => exact Or.inl (h.beside_of_error hresult)

end Apart
end StepRecorder.Replacement
