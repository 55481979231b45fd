import StepRecorder.Files.Operation

/-!
What is added to a file. Whatever becomes of the places of a disk, a file that exists keeps its
content, because new files get new numbers; so its content at any time is what it was before, with
all that was added to it since.

`Adds id bytes` is that relation for one file. Adding to a file, adding to whatever a path leads to
and removing what stands at a path are all told by it.
-/

namespace StepRecorder

namespace Handle

/-- Adds some bytes behind what there is to read. -/
def append (disk : Disk) (bytes : Bytes) (handle : Handle) : Disk :=
  handle.write disk ((handle.content disk).toOption.getD []).length bytes

theorem content_append_self (disk : Disk) (bytes : Bytes) (id : Nat) :
    (append disk bytes (.file id)).content id = disk.content id ++ bytes := by
  rw [append, content_write_self]
  exact overwrite_end ..

theorem fresh_write (disk : Disk) (position : Nat) (bytes : Bytes) (handle : Handle) :
    (write disk position bytes handle).fresh = disk.fresh := by
  cases handle <;> rfl

end Handle

namespace Disk

/-- A later disk, on which just some bytes were added to a file with an old number. -/
structure Adds (id : Nat) (bytes : Bytes) (disk later : Disk) : Prop where
  content : later.content id = disk.content id ++ bytes
  fresh : disk.fresh ≤ later.fresh

namespace Adds

variable {disk later last : Disk} {id : Nat} {bytes more : Bytes}

theorem refl (id : Nat) (disk : Disk) : Adds id [] disk disk :=
  ⟨(List.append_nil _).symm, Nat.le_refl _⟩

theorem trans (h : Adds id bytes disk later) (h' : Adds id more later last) :
    Adds id (bytes ++ more) disk last := by
  refine ⟨?_, Nat.le_trans h.fresh h'.fresh⟩
  rw [h'.content, h.content, List.append_assoc]

/-- Adding to a file, be it this one or another. -/
theorem append (id : Nat) (disk : Disk) (bytes : Bytes) (handle : Handle) :
    Adds id (if handle = .file id then bytes else []) disk (handle.append disk bytes) := by
  refine ⟨?_, Nat.le_of_eq (Handle.fresh_write ..).symm⟩
  cases handle with
  | directory => exact (List.append_nil _).symm
  | device device => exact (List.append_nil _).symm
  | file other =>
    by_cases h : other = id
    · subst h
      rw [if_pos rfl, Handle.content_append_self]
    · have hother : Handle.file other ≠ .file id := fun heq => h (Handle.file.inj heq)
      rw [if_neg hother, List.append_nil]
      exact Handle.content_write_of_ne _ _ _ (Ne.symm h)

/-- Opening a path to add to what it leads to, which may make a new file. -/
theorem openWrite {path : Text} {handle : Handle} (hid : id < disk.fresh)
    (h : disk.openWrite? false path = .ok (later, handle)) : Adds id [] disk later := by
  unfold openWrite? at h
  cases hplace : disk.filePlace? path with
  | error error => simp [hplace, bind, Except.bind] at h
  | ok place =>
    simp only [hplace, bind, Except.bind] at h
    split at h
    · obtain ⟨rfl, -⟩ := Prod.mk.inj (Except.ok.inj h)
      refine ⟨?_, Nat.le_succ _⟩
      have hne : id ≠ disk.fresh := Nat.ne_of_lt hid
      simp [putFile, put, Disk.content, Ordered.lookup_put_of_ne hne]
    · cases h
    · obtain ⟨rfl, -⟩ := Prod.mk.inj (Except.ok.inj h)
      exact ⟨(List.append_nil _).symm, Nat.le_refl _⟩
    · obtain ⟨rfl, -⟩ := Prod.mk.inj (Except.ok.inj h)
      exact refl id disk
    · cases h

/-- Removing what stands at a path. -/
theorem remove? {path : Text} (h : disk.remove? path = .ok later) : Adds id [] disk later := by
  unfold Disk.remove? at h
  cases hplace : disk.ownPlace? path with
  | error error => simp [hplace, bind, Except.bind] at h
  | ok place =>
    simp only [hplace, bind, Except.bind] at h
    split at h
    · obtain rfl := Except.ok.inj h
      exact ⟨(List.append_nil _).symm, Nat.le_refl _⟩
    · cases h

end Adds
end Disk
end StepRecorder
