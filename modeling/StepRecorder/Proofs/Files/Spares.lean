import StepRecorder.Proofs.Files.Sound

/-!
What operations on plain files leave alone. A place is plain where a file or nothing stands; paths
never lead on from there, so whatever happens at plain places, every path still leads where it led.

    places    ┌ files made, written, moved
    others    └ the same entries, and the same contents of their files

A file can stand at several places. What happens to it at one of them is seen at all, so the
contents are the same only at places that are apart: they hold no file that one of the others holds.

Main statements: `openWrite?_of_isPlain`, `spares_write`, `rename?_of_isClosed`, and
`Spares.follow`, by which the paths are the same.
-/

namespace StepRecorder.Disk

/-- Whether nothing or a file stands at a place. -/
def IsPlain (disk : Disk) (place : Place) : Prop :=
  disk.at? place = none ∨ ∃ id, disk.at? place = some (.file id)

/-- Whether one file stands at two places. -/
def SharesFile (disk : Disk) (place other : Place) : Prop :=
  ∃ id, disk.at? place = some (.file id) ∧ disk.at? other = some (.file id)

/-- Whether a place is none of some places, and holds the file of none of them. -/
structure IsApart (disk : Disk) (places : List Place) (place : Place) : Prop where
  notMem : place ∉ places
  file : ∀ other ∈ places, ¬ disk.SharesFile other place

/-- Whether no file stands at two of some places. -/
def AreApart (disk : Disk) (places : List Place) : Prop :=
  ∀ place ∈ places, ∀ other ∈ places, place ≠ other → ¬ disk.SharesFile place other

/-- A disk that differs from another one at most by plain entries at some places, and by what files
hold that stand there. No file that stands elsewhere only is among them. -/
structure Spares (places : List Place) (disk disk' : Disk) : Prop where
  at? : ∀ place, place ∉ places → disk'.at? place = disk.at? place
  content : ∀ place id, disk.IsApart places place → disk.at? place = some (.file id) →
    disk'.content id = disk.content id
  apart : ∀ place, disk.IsApart places place → disk'.IsApart places place
  ways : SameWays disk.at? disk'.at?
  current : disk'.current = disk.current

variable {disk disk' disk'' : Disk} {place other goal : Place} {places more : List Place}
  {path : Text}

theorem SharesFile.symm (h : disk.SharesFile place other) : disk.SharesFile other place := by
  obtain ⟨id, hplace, hother⟩ := h
  exact ⟨id, hother, hplace⟩

theorem SharesFile.congr (h : disk'.SharesFile place other)
    (hplace : disk'.at? place = disk.at? place) (hother : disk'.at? other = disk.at? other) :
    disk.SharesFile place other := by
  obtain ⟨id, hfile, hfile'⟩ := h
  exact ⟨id, hplace.symm.trans hfile, hother.symm.trans hfile'⟩

theorem not_sharesFile (h : ∀ id, disk.at? place ≠ some (.file id)) :
    ¬ disk.SharesFile place other := by
  rintro ⟨id, hfile, -⟩
  exact h id hfile

theorem IsApart.mono (h : disk.IsApart more place) (hsub : places ⊆ more) :
    disk.IsApart places place :=
  ⟨fun hmem => h.notMem (hsub hmem), fun other hother => h.file other (hsub hother)⟩

theorem areApart_singleton (disk : Disk) (place : Place) : disk.AreApart [place] := by
  intro first hfirst second hsecond hne
  exact absurd ((List.mem_singleton.mp hfirst).trans (List.mem_singleton.mp hsecond).symm) hne

theorem areApart_pair (h : ¬ disk.SharesFile place other) : disk.AreApart [place, other] := by
  intro first hfirst second hsecond hne hshared
  simp only [List.mem_cons, List.not_mem_nil, or_false] at hfirst hsecond
  rcases hfirst with rfl | rfl <;> rcases hsecond with rfl | rfl
  · exact hne rfl
  · exact h hshared
  · exact h hshared.symm
  · exact hne rfl

/-- Places are apart where a file stands at one of them at most. -/
theorem areApart_of_forall_ne (single : Place)
    (h : ∀ place ∈ places, place ≠ single → ∀ id, disk.at? place ≠ some (.file id)) :
    disk.AreApart places := by
  intro first hfirst second hsecond hne hshared
  by_cases hsingle : first = single
  · exact not_sharesFile (h second hsecond fun heq => hne (hsingle.trans heq.symm)) hshared.symm
  · exact not_sharesFile (h first hfirst hsingle) hshared

theorem AreApart.isApart (h : disk.AreApart more) (hsub : places ⊆ more) (hplace : place ∈ more)
    (hnot : place ∉ places) : disk.IsApart places place := by
  refine ⟨hnot, fun other hother => h other (hsub hother) place hplace ?_⟩
  rintro rfl
  exact hnot hother

theorem IsPlain.isClosed (h : disk.IsPlain place) : IsClosed disk.at? place := by
  intro entry hentry
  rcases h with hnone | ⟨id, hfile⟩
  · cases hnone.symm.trans hentry
  · cases hfile.symm.trans hentry
    rfl

theorem IsClosed.ne_directory (h : IsClosed disk.at? place) : disk.at? place ≠ some .directory :=
  fun hdirectory => Bool.noConfusion (h _ hdirectory)

theorem IsPlain.ne_directory (h : disk.IsPlain place) : disk.at? place ≠ some .directory :=
  h.isClosed.ne_directory

theorem IsPlain.of_file {id : Nat} (h : disk.at? place = some (.file id)) : disk.IsPlain place :=
  Or.inr ⟨id, h⟩

/-- Views that agree but where both are closed have the same ways. -/
theorem sameWays_of_isClosed {look look' : Place → Option Entry}
    (h : ∀ place, look' place = look place ∨ IsClosed look place ∧ IsClosed look' place) :
    SameWays look look' := by
  intro place entry hway
  rcases h place with heq | ⟨hclosed, hclosed'⟩
  · rw [heq]
  · constructor
    · exact fun hentry => absurd hway (by simp [hclosed entry hentry])
    · exact fun hentry => absurd hway (by simp [hclosed' entry hentry])

namespace Spares

theorem refl (places : List Place) (disk : Disk) : Spares places disk disk :=
  ⟨fun _ _ => rfl, fun _ _ _ _ => rfl, fun _ hapart => hapart, .refl _, rfl⟩

theorem trans (h : Spares places disk disk') (h' : Spares places disk' disk'') :
    Spares places disk disk'' := by
  refine ⟨?_, ?_, ?_, h.ways.trans h'.ways, h'.current.trans h.current⟩
  · exact fun place hplace => (h'.at? place hplace).trans (h.at? place hplace)
  · intro place id hapart hid
    exact (h'.content place id (h.apart place hapart)
      ((h.at? place hapart.notMem).trans hid)).trans (h.content place id hapart hid)
  · exact fun place hapart => h'.apart place (h.apart place hapart)

theorem mono (h : Spares places disk disk') (hsub : places ⊆ more) : Spares more disk disk' := by
  refine ⟨?_, ?_, ?_, h.ways, h.current⟩
  · exact fun place hplace => h.at? place (fun hmem => hplace (hsub hmem))
  · exact fun place id hapart => h.content place id (hapart.mono hsub)
  · intro place hapart
    have hplace := hapart.mono hsub
    refine ⟨hapart.notMem, fun other hother hshared => ?_⟩
    by_cases hmem : other ∈ places
    · exact (h.apart place hplace).file other hmem hshared
    · exact hapart.file other hother
        (hshared.congr (h.at? other hmem) (h.at? place hplace.notMem))

/-- Places stay apart of which only some are concerned, if those are apart afterwards. -/
theorem areApart (h : Spares places disk disk') (hsub : places ⊆ more)
    (hbefore : disk.AreApart more) (hafter : disk'.AreApart places) : disk'.AreApart more := by
  have hmixed : ∀ first ∈ places, ∀ second ∈ more, second ∉ places →
      ¬ disk'.SharesFile first second := fun first hfirst second hsecond hnot =>
    (h.apart second (hbefore.isApart hsub hsecond hnot)).file first hfirst
  intro first hfirst second hsecond hne hshared
  by_cases hfirst' : first ∈ places <;> by_cases hsecond' : second ∈ places
  · exact hafter first hfirst' second hsecond' hne hshared
  · exact hmixed first hfirst' second hsecond hsecond' hshared
  · exact hmixed second hsecond' first hfirst hfirst' hshared.symm
  · exact hbefore first hfirst second hsecond hne
      (hshared.congr (h.at? first hfirst') (h.at? second hsecond'))

theorem areApart_of_singleton (h : Spares [place] disk disk') (hplace : place ∈ more)
    (hbefore : disk.AreApart more) : disk'.AreApart more :=
  h.areApart (by simpa using hplace) hbefore (areApart_singleton disk' place)

theorem follow {aim : Aim} {names : List Text} (h : Spares places disk disk')
    (hfollow : disk.follow aim path names = .ok place) : disk'.follow aim path names = .ok place :=
  follow_congr h.ways h.current hfollow

/-- A path leads to the same place on both, or nowhere on both. -/
theorem follow_iff {aim : Aim} {names : List Text} (h : Spares places disk disk') :
    disk'.follow aim path names = .ok place ↔ disk.follow aim path names = .ok place :=
  ⟨follow_congr h.ways.symm h.current.symm, h.follow⟩

theorem isPlain (h : Spares places disk disk') (hplace : place ∉ places)
    (hplain : disk.IsPlain place) : disk'.IsPlain place := by
  rwa [IsPlain, h.at? place hplace]

theorem isClosed (h : Spares places disk disk') (hplace : place ∉ places)
    (hclosed : IsClosed disk.at? place) : IsClosed disk'.at? place := by
  rwa [IsClosed, h.at? place hplace]

end Spares

/-! ### Opening -/

theorem spares_putFile (h : disk.IsSound) (hroot : place ≠ []) (hnone : disk.at? place = none) :
    Spares [place] disk (disk.putFile place) := by
  have hother : ∀ other, other ≠ place → (disk.putFile place).at? other = disk.at? other :=
    fun other hne => at?_put_of_ne disk hne _
  have hself : (disk.putFile place).at? place = some (.file disk.fresh) :=
    at?_put_self disk hroot _
  refine ⟨fun other hne => hother other (by simpa using hne), ?_, ?_, sameWays_of_isClosed ?_, rfl⟩
  · intro other id _ hid
    have hne : id ≠ disk.fresh := Nat.ne_of_lt (h.numbered other id hid)
    simp [Disk.putFile, Disk.content, Ordered.lookup_put_of_ne hne]
  · intro other hapart
    refine ⟨hapart.notMem, fun found hfound => ?_⟩
    obtain rfl := List.mem_singleton.mp hfound
    rintro ⟨id, hid, hid'⟩
    cases hself.symm.trans hid
    rw [hother other (by simpa using hapart.notMem)] at hid'
    exact Nat.lt_irrefl _ (h.numbered other _ hid')
  · intro other
    by_cases hne : other = place
    · subst hne
      exact Or.inr ⟨IsPlain.isClosed (Or.inl hnone), (IsPlain.of_file hself).isClosed⟩
    · exact Or.inl (hother other hne)

/-- Giving a file that stands at a place another content. -/
theorem spares_contents {id : Nat} (hfile : disk.at? place = some (.file id)) (bytes : Bytes) :
    Spares [place] disk { disk with contents := Ordered.put id bytes disk.contents } := by
  refine ⟨fun _ _ => rfl, ?_, fun _ hapart => ⟨hapart.notMem, hapart.file⟩, .refl _, rfl⟩
  intro other otherId hapart hid
  have hne : otherId ≠ id := by
    rintro rfl
    exact hapart.file place (List.mem_singleton_self place) ⟨otherId, hfile, hid⟩
  simp [Disk.content, Ordered.lookup_put_of_ne hne]

/-- Opening a path that leads to a plain place: the file is there then. -/
theorem openWrite?_of_isPlain (h : disk.IsSound) (hpath : disk.filePlace? path = .ok place)
    (hplain : disk.IsPlain place) (truncates : Bool) :
    ∃ disk' id, disk.openWrite? truncates path = .ok (disk', .file id) ∧ disk'.IsSound
      ∧ Spares [place] disk disk' ∧ disk'.at? place = some (.file id)
      ∧ (truncates = true → disk'.content id = []) := by
  rcases hplain with hnone | ⟨id, hfile⟩
  · have hroot : place ≠ [] := by
      rintro rfl
      cases hnone
    have hopen : disk.openWrite? truncates path = .ok (disk.putFile place, .file disk.fresh) := by
      simp [openWrite?, hpath, hnone, bind, Except.bind]
    refine ⟨_, _, hopen, h.openWrite? hopen, spares_putFile h hroot hnone, ?_, fun _ => ?_⟩
    · exact at?_put_self disk hroot _
    · simp [Disk.putFile, Disk.content]
  · have hopen : disk.openWrite? truncates path = .ok
        ({ disk with contents := if truncates then Ordered.put id [] disk.contents
                                 else disk.contents }, .file id) := by
      simp [openWrite?, hpath, hfile, bind, Except.bind]
    refine ⟨_, _, hopen, h.openWrite? hopen, ?_, hfile, fun htruncates => ?_⟩
    · cases truncates with
      | true => exact spares_contents hfile []
      | false => exact Spares.refl _ disk
    · simp [htruncates, Disk.content]

/-- Opening a path that leads to no plain place: at most a device is opened, and nothing changes. -/
theorem openWrite?_of_not_isPlain
    (h : ∀ place, disk.filePlace? path = .ok place → ¬ disk.IsPlain place) (truncates : Bool) :
    (∃ error, disk.openWrite? truncates path = .error error)
      ∨ ∃ device, disk.openWrite? truncates path = .ok (disk, .device device) := by
  cases hpath : disk.filePlace? path with
  | error error => exact Or.inl ⟨error, by simp [openWrite?, hpath, bind, Except.bind]⟩
  | ok place =>
    cases hentry : disk.at? place with
    | none => exact absurd (Or.inl hentry) (h place hpath)
    | some entry =>
      cases entry with
      | file id => exact absurd (.of_file hentry) (h place hpath)
      | device device =>
        exact Or.inr ⟨device, by simp [openWrite?, hpath, hentry, bind, Except.bind]⟩
      | _ => exact Or.inl ⟨_, by simp [openWrite?, hpath, hentry, bind, Except.bind]; rfl⟩

/-- Writing to a file that stands at a place. -/
theorem spares_write {id : Nat} (hfile : disk.at? place = some (.file id)) (position : Nat)
    (bytes : Bytes) : Spares [place] disk ((Handle.file id).write disk position bytes) :=
  spares_contents hfile _

/-- Adding to the file where a path leads. -/
theorem append?_of_file {id : Nat} (hpath : disk.filePlace? path = .ok place)
    (hfile : disk.at? place = some (.file id)) (bytes : Bytes) :
    disk.append? path bytes
      = .ok ((Handle.file id).write disk (disk.content id).length bytes) := by
  simp [append?, openWrite?, hpath, hfile, bind, Except.bind, Handle.content]

/-- Opening the file where a path leads to read it. -/
theorem openRead?_of_file {id : Nat} (hpath : disk.filePlace? path = .ok place)
    (hfile : disk.at? place = some (.file id)) : disk.openRead? path = .ok (.file id) := by
  simp [openRead?, entry?, place?_of_filePlace? hpath, hfile, bind, Except.bind]

/-- Reading the file where a path leads. -/
theorem read?_of_file {id : Nat} (hpath : disk.filePlace? path = .ok place)
    (hfile : disk.at? place = some (.file id)) : disk.read? path = .ok (disk.content id) := by
  simp [read?, openRead?_of_file hpath hfile, bind, Except.bind, Handle.content]

/-! ### Moving -/

/-- The disk with a file that stands at one place moved to another one. -/
def moved (disk : Disk) (place goal : Place) (id : Nat) : Disk :=
  (disk.clear place).put goal (.file id)

theorem at?_moved_self {id : Nat} (hroot : goal ≠ []) :
    (disk.moved place goal id).at? goal = some (.file id) :=
  at?_put_self _ hroot _

section Moved

variable {id : Nat} (h : disk.IsSound) (hfile : disk.at? place = some (.file id))
include h hfile

theorem at?_moved_of_ne {other : Place} (hother : other ≠ goal) :
    (disk.moved place goal id).at? other = if other = place then none else disk.at? other := by
  rw [moved, at?_put_of_ne _ hother]
  exact h.at?_clear (IsPlain.of_file hfile).ne_directory other

theorem isSound_moved {parent : Place} {name : Text} (hne : parent ++ [name] ≠ place)
    (hparent : disk.at? parent = some .directory)
    (hgoal : IsClosed disk.at? (parent ++ [name])) :
    (disk.moved place (parent ++ [name]) id).IsSound := by
  -- the same as clearing both places, and making the entry anew
  have hplace := (IsPlain.of_file hfile).ne_directory
  have hcleared : ∀ other, (disk.clear place).at? other
      = if other = place then none else disk.at? other := h.at?_clear hplace
  have hsound := h.clear hplace
  have hdirectory : (disk.clear place).at? (parent ++ [name]) ≠ some .directory := by
    rw [hcleared, if_neg hne]
    exact hgoal.ne_directory
  have hboth : ∀ other, ((disk.clear place).clear (parent ++ [name])).at? other
      = if other = parent ++ [name] then none else (disk.clear place).at? other :=
    hsound.at?_clear hdirectory
  have hput : (((disk.clear place).clear (parent ++ [name])).put (parent ++ [name])
      (.file id)).IsSound := by
    refine (hsound.clear hdirectory).put ?_ ?_ ?_
    · rw [hboth, if_neg (by simp), hcleared, if_neg, hparent]
      rintro rfl
      exact hplace hparent
    · rw [hboth, if_pos rfl]
    · rintro other ⟨⟩
      exact h.numbered place id hfile
  refine hput.congr ?_ (Nat.le_refl _) rfl
  funext other
  by_cases hother : other = parent ++ [name]
  · subst hother
    rw [at?_moved_self (by simp), at?_put_self _ (by simp)]
  · rw [moved, at?_put_of_ne _ hother, at?_put_of_ne _ hother, hboth, if_neg hother]

theorem spares_moved (hroot : goal ≠ []) (hne : place ≠ goal) (hgoal : IsClosed disk.at? goal) :
    Spares [place, goal] disk (disk.moved place goal id) := by
  have hother : ∀ other, other ≠ goal → other ≠ place →
      (disk.moved place goal id).at? other = disk.at? other := by
    intro other hgoal hplace
    rw [at?_moved_of_ne h hfile hgoal, if_neg hplace]
  have hnone : (disk.moved place goal id).at? place = none := by
    rw [at?_moved_of_ne h hfile hne, if_pos rfl]
  refine ⟨?_, fun _ _ _ _ => rfl, ?_, sameWays_of_isClosed ?_, rfl⟩
  · intro other hnot
    simp only [List.mem_cons, List.not_mem_nil, or_false, not_or] at hnot
    exact hother other hnot.2 hnot.1
  · intro other hapart
    have hnot := hapart.notMem
    simp only [List.mem_cons, List.not_mem_nil, or_false, not_or] at hnot
    refine ⟨hapart.notMem, fun found hfound => ?_⟩
    simp only [List.mem_cons, List.not_mem_nil, or_false] at hfound
    rcases hfound with rfl | rfl
    · exact not_sharesFile (by simp [hnone])
    · rintro ⟨shared, hshared, hshared'⟩
      cases (at?_moved_self hroot).symm.trans hshared
      rw [hother other hnot.2 hnot.1] at hshared'
      exact hapart.file place (List.mem_cons_self ..) ⟨id, hfile, hshared'⟩
  · intro other
    by_cases heq : other = goal
    · subst heq
      exact Or.inr ⟨hgoal, (IsPlain.of_file (at?_moved_self hroot)).isClosed⟩
    by_cases heq' : other = place
    · subst heq'
      exact Or.inr ⟨(IsPlain.of_file hfile).isClosed, IsPlain.isClosed (Or.inl hnone)⟩
    · exact Or.inl (hother other heq heq')

/-- Moving a file to a place where no way goes on, be there another one or none. -/
theorem rename?_of_isClosed {target : Text} (hpath : disk.ownPlace? path = .ok place)
    (htarget : disk.ownPlace? target = .ok goal) (hne : place ≠ goal)
    (hgoal : IsClosed disk.at? goal) :
    ∃ disk', disk.rename? path target = .ok disk' ∧ disk'.IsSound
      ∧ Spares [place, goal] disk disk' ∧ disk'.at? place = none
      ∧ disk'.at? goal = some (.file id) ∧ ∀ other, disk'.content other = disk.content other := by
  obtain ⟨parent, name, rfl, hparent⟩ := h.exists_parent htarget hgoal.ne_directory
  have hroot : parent ++ [name] ≠ [] := by simp
  have hrename : disk.rename? path target = .ok (disk.moved place (parent ++ [name]) id) := by
    have hdirectory := hgoal.ne_directory
    cases hentry : disk.at? (parent ++ [name]) with
    | none => simp [rename?, hpath, htarget, hfile, hentry, hne, bind, Except.bind, moved]
    | some entry =>
      cases entry with
      | directory => exact absurd hentry hdirectory
      | _ => simp [rename?, hpath, htarget, hfile, hentry, hne, bind, Except.bind, moved]
  refine ⟨_, hrename, isSound_moved h hfile (Ne.symm hne) hparent hgoal,
    spares_moved h hfile hroot hne hgoal, ?_, at?_moved_self hroot, fun _ => rfl⟩
  rw [at?_moved_of_ne h hfile hne, if_pos rfl]

end Moved

/-- A file takes the place of no directory. -/
theorem rename?_of_directory {target : Text} {id : Nat} (hpath : disk.ownPlace? path = .ok place)
    (hfile : disk.at? place = some (.file id))
    (htarget : ∀ goal, disk.ownPlace? target = .ok goal → disk.at? goal = some .directory) :
    ∃ error, disk.rename? path target = .error error := by
  cases hgoal : disk.ownPlace? target with
  | error error => exact ⟨error, by simp [rename?, hpath, hgoal, bind, Except.bind]⟩
  | ok goal =>
    have hdirectory := htarget goal hgoal
    exact ⟨.isDirectory, by simp [rename?, hpath, hgoal, hfile, hdirectory, bind, Except.bind]⟩

end StepRecorder.Disk
