import StepRecorder.Proofs.Files.Sound

/-!
Disks to which something was added. Making directories and opening a file to add to it leave all
that was there, with what it holds; so whatever could be read can still be read.

Main statements: `Extends.makeParents`, `Extends.openWrite?` and `Extends.read?`; and
`Widens.makeParents`: nothing but directories is added.
-/

namespace StepRecorder.Disk

/-- A disk on which everything of another one still stands, and files hold what they held. -/
structure Extends (disk disk' : Disk) : Prop where
  at? : ∀ place entry, disk.at? place = some entry → disk'.at? place = some entry
  content : ∀ place id, disk.at? place = some (.file id) → disk'.content id = disk.content id
  current : disk'.current = disk.current

variable {disk disk' disk'' : Disk} {path : Text}

namespace Extends

theorem refl (disk : Disk) : Extends disk disk := ⟨fun _ _ => id, fun _ _ _ => rfl, rfl⟩

theorem trans (h : Extends disk disk') (h' : Extends disk' disk'') : Extends disk disk'' := by
  refine ⟨?_, ?_, h'.current.trans h.current⟩
  · exact fun place entry hentry => h'.at? place entry (h.at? place entry hentry)
  · intro place id hid
    exact (h'.content place id (h.at? place _ hid)).trans (h.content place id hid)

/-- A new entry where nothing stood. -/
theorem put {place : Place} (hnone : disk.at? place = none) (entry : Entry) :
    Extends disk (disk.put place entry) := by
  refine ⟨fun other found hfound => ?_, fun _ _ _ => rfl, rfl⟩
  rw [at?_put_of_ne, hfound]
  rintro rfl
  rw [hnone] at hfound
  cases hfound

theorem makeDirectory? (h : disk.makeDirectory? path = .ok disk') : Extends disk disk' := by
  unfold Disk.makeDirectory? at h
  cases hplace : disk.ownPlace? path with
  | error error => simp [hplace, bind, Except.bind] at h
  | ok place =>
    simp only [hplace, bind, Except.bind] at h
    split at h
    · cases h
    next hthere =>
      obtain rfl := Except.ok.inj h
      exact put (by simpa using hthere) .directory

theorem makeParents (disk : Disk) (path : Text) : Extends disk (disk.makeParents path).1 :=
  makeParents_induction (fun _ _ _ h hmade => h.trans (makeDirectory? hmade)) disk path
    (refl disk)

/-- Opening a path to add to what it leads to. -/
theorem openWrite? {handle : Handle} (hsound : disk.IsSound)
    (h : disk.openWrite? false path = .ok (disk', handle)) : Extends disk disk' := by
  unfold Disk.openWrite? at h
  cases hplace : disk.filePlace? path with
  | error error => simp [hplace, bind, Except.bind] at h
  | ok place =>
    simp only [hplace, bind, Except.bind] at h
    split at h
    next hnone =>
      obtain ⟨rfl, -⟩ := Prod.mk.inj (Except.ok.inj h)
      have hput := put hnone (.file disk.fresh)
      refine ⟨hput.at?, fun other id hid => ?_, rfl⟩
      have hne : id ≠ disk.fresh := Nat.ne_of_lt (hsound.numbered other id hid)
      simp [Disk.putFile, Disk.content, Ordered.lookup_put_of_ne hne]
    · cases h
    · obtain ⟨rfl, -⟩ := Prod.mk.inj (Except.ok.inj h)
      exact refl disk
    · obtain ⟨rfl, -⟩ := Prod.mk.inj (Except.ok.inj h)
      exact refl disk
    · cases h

/-- A path that leads to something leads to the same place. -/
theorem place? (h : Extends disk disk') {place : Place} {entry : Entry}
    (hplace : disk.place? path = .ok place) (hentry : disk.at? place = some entry) :
    disk'.place? path = .ok place := by
  refine follow_keeps ?_ h.current ?_ hplace
  · exact fun other way _ hway => h.at? other way hway
  · intro hclosed way hway
    exact hclosed way (hentry.trans ((h.at? place entry hentry).symm.trans hway))

/-- A path that leads to something leads to the same thing. -/
theorem entry? (h : Extends disk disk') {entry : Entry} (hentry : disk.entry? path = .ok entry) :
    ∃ place, disk.at? place = some entry ∧ disk'.place? path = .ok place
      ∧ disk'.at? place = some entry := by
  unfold Disk.entry? at hentry
  cases hplace : disk.place? path with
  | error error => simp [hplace, bind, Except.bind] at hentry
  | ok place =>
    cases hfound : disk.at? place with
    | none => simp [hplace, hfound, bind, Except.bind] at hentry
    | some found =>
      obtain rfl : found = entry := by
        simpa [hplace, hfound, bind, Except.bind] using hentry
      exact ⟨place, hfound, h.place? hplace hfound, h.at? place found hfound⟩

/-- What could be read can still be read. -/
theorem read? (h : Extends disk disk') {bytes : Bytes} (hread : disk.read? path = .ok bytes) :
    disk'.read? path = .ok bytes := by
  unfold Disk.read? Disk.openRead? at hread
  cases hentry : disk.entry? path with
  | error error => simp [hentry, bind, Except.bind] at hread
  | ok entry =>
    obtain ⟨place, hold, hplace, hnew⟩ := h.entry? hentry
    have hentry' : disk'.entry? path = .ok entry := by
      simp [Disk.entry?, hplace, hnew, bind, Except.bind]
    cases entry with
    | directory => simp [hentry, bind, Except.bind, Handle.content] at hread
    | link target => simp [hentry, bind, Except.bind] at hread
    | device device =>
      simpa [Disk.read?, Disk.openRead?, hentry, hentry', bind, Except.bind, Handle.content]
        using hread
    | file id =>
      have hcontent := h.content place id hold
      simpa [Disk.read?, Disk.openRead?, hentry, hentry', bind, Except.bind, Handle.content,
        hcontent] using hread

end Extends

/-- A disk to which at most directories were added. -/
structure Widens (disk disk' : Disk) : Prop extends Extends disk disk' where
  added : ∀ place, disk.at? place = none →
    disk'.at? place = none ∨ disk'.at? place = some .directory

namespace Widens

theorem refl (disk : Disk) : Widens disk disk := ⟨.refl disk, fun _ => Or.inl⟩

theorem trans (h : Widens disk disk') (h' : Widens disk' disk'') : Widens disk disk'' := by
  refine ⟨h.toExtends.trans h'.toExtends, fun place hnone => ?_⟩
  rcases h.added place hnone with hstill | hdirectory
  · exact h'.added place hstill
  · exact Or.inr (h'.at? place _ hdirectory)

theorem makeDirectory? (h : disk.makeDirectory? path = .ok disk') : Widens disk disk' := by
  refine ⟨.makeDirectory? h, fun other hnone => ?_⟩
  unfold Disk.makeDirectory? at h
  cases hplace : disk.ownPlace? path with
  | error error => simp [hplace, bind, Except.bind] at h
  | ok place =>
    simp only [hplace, bind, Except.bind] at h
    split at h
    · cases h
    · obtain rfl := Except.ok.inj h
      by_cases hother : other = place
      · subst hother
        have hroot : other ≠ [] := by
          rintro rfl
          cases hnone
        exact Or.inr (at?_put_self disk hroot .directory)
      · exact Or.inl ((at?_put_of_ne disk hother .directory).trans hnone)

theorem makeParents (disk : Disk) (path : Text) : Widens disk (disk.makeParents path).1 :=
  makeParents_induction (fun _ _ _ h hmade => h.trans (makeDirectory? hmade)) disk path
    (refl disk)

/-- No file is added. -/
theorem at?_of_file (h : Widens disk disk') {place : Place} {id : Nat}
    (hfile : disk'.at? place = some (.file id)) : disk.at? place = some (.file id) := by
  cases hentry : disk.at? place with
  | some entry => exact (h.at? place entry hentry).symm.trans hfile
  | none =>
    rcases h.added place hentry with hnone | hdirectory
    · cases hnone.symm.trans hfile
    · cases hdirectory.symm.trans hfile

end Widens
end StepRecorder.Disk
