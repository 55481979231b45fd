import Mathlib.Data.List.Induction
import StepRecorder.Files.Operation
import StepRecorder.Proofs.Files.Walk

/-!
Sound disks. Everything stands in a directory, and the numbers of files have been given out. A file
may have several names. Whatever is made on a sound disk leaves it sound.

    put            a new entry where nothing stood
    openWrite?     the file that was there, or a new one
    write          another content
    rename?        the entry, at another place

Main statements: `IsSound.openWrite?`, `IsSound.write`, `IsSound.makeParents`, `IsSound.rename?`.
-/

namespace StepRecorder.Disk

/-- A disk on which new files get new numbers, and all stand in directories. -/
structure IsSound (disk : Disk) : Prop where
  numbered : ∀ place id, disk.at? place = some (.file id) → id < disk.fresh
  parent : ∀ place name, disk.at? (place ++ [name]) ≠ none → disk.at? place = some .directory
  current : disk.at? disk.current = some .directory

variable {disk disk' : Disk} {place : Place}

theorem at?_of_entries (h : disk'.entries = disk.entries) : disk'.at? = disk.at? := by
  funext place
  rw [at?, at?, h]

theorem IsSound.isRooted (h : disk.IsSound) : IsRooted disk.at? := ⟨rfl, h.parent⟩

/-- A place where a path leads and no directory stands is in a directory. -/
theorem IsSound.exists_parent {aim : Aim} {path : Text} {names : List Text} (h : disk.IsSound)
    (hfollow : disk.follow aim path names = .ok place) (hplace : disk.at? place ≠ some .directory) :
    ∃ parent name, place = parent ++ [name] ∧ disk.at? parent = some .directory :=
  (isSeat_of_follow h.isRooted h.current hfollow).resolve_left hplace

/-- Nothing stands below what is no directory. -/
theorem IsSound.at?_below (h : disk.IsSound) (hplace : disk.at? place ≠ some .directory)
    {names : List Text} (hnames : names ≠ []) : disk.at? (place ++ names) = none := by
  induction names using List.reverseRecOn with
  | nil => exact absurd rfl hnames
  | append_singleton names name ih =>
    by_contra hthere
    rw [← List.append_assoc] at hthere
    have hparent := h.parent _ _ hthere
    by_cases hempty : names = []
    · subst hempty
      exact hplace (by simpa using hparent)
    · rw [ih hempty] at hparent
      cases hparent

/-- Only what stands where counts, and which numbers are left. -/
theorem IsSound.congr (h : disk.IsSound) (hat : disk'.at? = disk.at?)
    (hfresh : disk.fresh ≤ disk'.fresh) (hcurrent : disk'.current = disk.current) :
    disk'.IsSound := by
  obtain ⟨hnumbered, hparent, hdirectory⟩ := h
  refine ⟨?_, by rwa [hat], by rwa [hat, hcurrent]⟩
  intro place id hid
  rw [hat] at hid
  exact Nat.lt_of_lt_of_le (hnumbered place id hid) hfresh

/-- A new entry where nothing stood, in a directory. A file needs a number that was given out. -/
theorem IsSound.put (h : disk.IsSound) {parent : Place} {name : Text}
    (hparent : disk.at? parent = some .directory) (hnone : disk.at? (parent ++ [name]) = none)
    {entry : Entry} (hentry : ∀ id, entry = .file id → id < disk.fresh) :
    (disk.put (parent ++ [name]) entry).IsSound := by
  have hroot : parent ++ [name] ≠ [] := by simp
  have hself := at?_put_self disk hroot entry
  have hkept : ∀ other found, disk.at? other = some found →
      (disk.put (parent ++ [name]) entry).at? other = some found := by
    intro other found hfound
    rw [at?_put_of_ne, hfound]
    rintro rfl
    rw [hnone] at hfound
    cases hfound
  have hcases : ∀ other found, (disk.put (parent ++ [name]) entry).at? other = some found →
      other = parent ++ [name] ∧ found = entry ∨ disk.at? other = some found := by
    intro other found hfound
    by_cases hother : other = parent ++ [name]
    · subst hother
      exact Or.inl ⟨rfl, Option.some.inj (hfound.symm.trans hself)⟩
    · exact Or.inr ((at?_put_of_ne disk hother entry).symm.trans hfound)
  refine ⟨?_, ?_, ?_⟩
  · intro other id hid
    rcases hcases other _ hid with ⟨-, hfile⟩ | hold
    · exact hentry id hfile.symm
    · exact h.numbered other id hold
  · intro above below hthere
    obtain ⟨found, hfound⟩ := Option.ne_none_iff_exists'.mp hthere
    rcases hcases _ _ hfound with ⟨heq, -⟩ | hold
    · obtain ⟨rfl, -⟩ := List.append_inj' heq rfl
      exact hkept _ _ hparent
    · exact hkept _ _ (h.parent above below (by rw [hold]; exact Option.some_ne_none _))
  · exact hkept _ _ h.current

/-- Taking away what is no directory takes away nothing else. -/
theorem IsSound.at?_clear (h : disk.IsSound) (hplace : disk.at? place ≠ some .directory)
    (other : Place) :
    (disk.clear place).at? other = if other = place then none else disk.at? other := by
  by_cases hroot : other = []
  · subst hroot
    rw [if_neg]
    · rfl
    · rintro rfl
      exact hplace rfl
  rw [Disk.at?_clear disk place hroot]
  by_cases hbelow : place <+: other
  · obtain ⟨names, rfl⟩ := hbelow
    rw [if_pos (List.isPrefixOf_iff_prefix.mpr (List.prefix_append place names))]
    by_cases hnames : names = []
    · rw [if_pos (by simp [hnames])]
    · rw [h.at?_below hplace hnames, ite_self]
  · rw [if_neg (fun hbool => hbelow (List.isPrefixOf_iff_prefix.mp hbool)), if_neg]
    rintro rfl
    exact hbelow (List.prefix_refl _)

theorem IsSound.clear (h : disk.IsSound) (hplace : disk.at? place ≠ some .directory) :
    (disk.clear place).IsSound := by
  have hat := h.at?_clear hplace
  have hkept : ∀ other entry, (disk.clear place).at? other = some entry →
      disk.at? other = some entry := by
    intro other entry hentry
    rw [hat] at hentry
    split at hentry
    · cases hentry
    · exact hentry
  have hdirectory : ∀ other, disk.at? other = some .directory →
      (disk.clear place).at? other = some .directory := by
    intro other hother
    rw [hat, if_neg, hother]
    rintro rfl
    exact hplace hother
  refine ⟨?_, ?_, hdirectory _ h.current⟩
  · exact fun other id hid => h.numbered other id (hkept _ _ hid)
  · intro above below hthere
    obtain ⟨entry, hentry⟩ := Option.ne_none_iff_exists'.mp hthere
    refine hdirectory _ (h.parent above below ?_)
    rw [hkept _ _ hentry]
    exact Option.some_ne_none _

/-! ### Operations -/

/-- The disk at the start. -/
theorem IsSound.ofCurrent (current : Text) : (Disk.ofCurrent current).IsSound := by
  have hat : ∀ place, (Disk.ofCurrent current).at? place
      = if place = [] then some .directory
        else if place = ["dev".toList] then some .directory
        else if place = ["dev".toList, "full".toList] then some (.device .full)
        else if place = ["dev".toList, "null".toList] then some (.device .null)
        else if place = [current] then some .directory else none := by
    intro place
    simp only [at?, Disk.ofCurrent, List.lookup_cons, List.lookup_nil]
    split
    · rfl
    · repeat' split
      all_goals simp_all
  have hfile : ∀ place id, (Disk.ofCurrent current).at? place ≠ some (.file id) := by
    intro place id
    rw [hat]
    repeat' split
    all_goals simp
  refine ⟨?_, ?_, ?_⟩
  · exact fun place id hid => absurd hid (hfile place id)
  · intro place name hthere
    rw [hat] at hthere
    rcases place with _ | ⟨first, _ | ⟨second, rest⟩⟩
    · rfl
    · obtain rfl : first = ['d', 'e', 'v'] := by
        by_contra hdev
        simp [hdev] at hthere
      rw [hat]
      rfl
    · simp at hthere
  · change (Disk.ofCurrent current).at? [current] = _
    rw [hat]
    simp

theorem IsSound.write (h : disk.IsSound) (position : Nat) (bytes : Bytes) (handle : Handle) :
    (handle.write disk position bytes).IsSound := by
  refine h.congr (at?_of_entries (Handle.entries_write ..)) ?_ ?_
  · cases handle <;> exact Nat.le_refl _
  · cases handle <;> rfl

theorem IsSound.putFile (h : disk.IsSound) {parent : Place} {name : Text}
    (hparent : disk.at? parent = some .directory) (hnone : disk.at? (parent ++ [name]) = none) :
    (disk.putFile (parent ++ [name])).IsSound := by
  -- the new number is one that was left
  have hmore : IsSound { disk with fresh := disk.fresh + 1 } :=
    h.congr rfl (Nat.le_succ _) rfl
  refine (hmore.put hparent hnone ?_).congr rfl (Nat.le_refl _) rfl
  rintro id ⟨⟩
  exact Nat.lt_succ_self _

theorem IsSound.openWrite? {truncates : Bool} {path : Text} {handle : Handle} (h : disk.IsSound)
    (hopen : disk.openWrite? truncates path = .ok (disk', handle)) : disk'.IsSound := by
  unfold Disk.openWrite? at hopen
  cases hplace : disk.filePlace? path with
  | error error => simp [hplace, bind, Except.bind] at hopen
  | ok place =>
    simp only [hplace, bind, Except.bind] at hopen
    split at hopen
    next hnone =>
      obtain ⟨rfl, -⟩ := Prod.mk.inj (Except.ok.inj hopen)
      obtain ⟨parent, name, rfl, hparent⟩ := h.exists_parent hplace (by simp [hnone])
      exact h.putFile hparent hnone
    · cases hopen
    · obtain ⟨rfl, -⟩ := Prod.mk.inj (Except.ok.inj hopen)
      exact h.congr rfl (Nat.le_refl _) rfl
    · obtain ⟨rfl, -⟩ := Prod.mk.inj (Except.ok.inj hopen)
      exact h
    · cases hopen

theorem IsSound.makeDirectory? {path : Text} (h : disk.IsSound)
    (hmake : disk.makeDirectory? path = .ok disk') : disk'.IsSound := by
  unfold Disk.makeDirectory? at hmake
  cases hplace : disk.ownPlace? path with
  | error error => simp [hplace, bind, Except.bind] at hmake
  | ok place =>
    simp only [hplace, bind, Except.bind] at hmake
    split at hmake
    · cases hmake
    next hthere =>
      obtain rfl := Except.ok.inj hmake
      have hnone : disk.at? place = none := by simpa using hthere
      obtain ⟨parent, name, rfl, hparent⟩ := h.exists_parent hplace (by simp [hnone])
      exact h.put hparent hnone (by rintro id ⟨⟩)

/-- Making the directories on a way is making directories one by one. -/
theorem makeDirectoriesWithin_induction {motive : Disk → Prop}
    (step : ∀ disk disk' path, motive disk → disk.makeDirectory? path = .ok disk' → motive disk')
    (bound : Nat) (disk : Disk) (path : Text) (h : motive disk) :
    motive (disk.makeDirectoriesWithin bound path).1 := by
  induction bound generalizing disk path with
  | zero => exact h
  | succ bound ih =>
    unfold makeDirectoriesWithin
    split
    next hmade => exact step _ _ _ h hmade
    · split
      next made result hresult =>
        have hmade : motive made := by
          split at hresult
          next parent _ =>
            have hparents := ih disk parent h
            rwa [hresult] at hparents
          · obtain ⟨rfl, -⟩ := Prod.mk.inj hresult
            exact h
        split
        · exact hmade
        · split
          next hmore => exact step _ _ _ hmade hmore
          · exact hmade
    · exact h

theorem makeParents_induction {motive : Disk → Prop}
    (step : ∀ disk disk' path, motive disk → disk.makeDirectory? path = .ok disk' → motive disk')
    (disk : Disk) (path : Text) (h : motive disk) : motive (disk.makeParents path).1 := by
  unfold makeParents
  split
  · exact makeDirectoriesWithin_induction step _ disk _ h
  · exact h

theorem IsSound.makeParents (h : disk.IsSound) (path : Text) :
    (disk.makeParents path).1.IsSound :=
  makeParents_induction (fun _ _ _ hsound hmade => hsound.makeDirectory? hmade) disk path h

end StepRecorder.Disk
