import StepRecorder.Files.Disk

/-!
Where paths lead, and what that depends on. Following a path enters directories and follows links;
whether a file or nothing stands at any other place makes no difference to a path that leads
somewhere.

    directory ─▶ directory ─▶ link ─▶ directory ─▶ file or nothing
    ╰─────────────── the same ──────────────────╯  may change

Main statements: `follow_keeps` and `follow_congr`; `ownPlace?_of_filePlace?`: where no link ends a
path, following it for a file or for its place is the same; `isSeat_of_follow`: a path leads to a
directory or into one.
-/

namespace StepRecorder

/-- Whether a way can go on through an entry. -/
def Entry.isWay : Entry → Bool
  | .directory | .link _ => true
  | .file _ | .device _ => false

namespace Disk

/-- Whether no way goes on at a place. -/
def IsClosed (look : Place → Option Entry) (place : Place) : Prop :=
  ∀ entry, look place = some entry → entry.isWay = false

theorem way_cases (look : Place → Option Entry) (place : Place) :
    look place = some .directory ∨ (∃ target, look place = some (.link target))
      ∨ IsClosed look place := by
  cases hentry : look place with
  | none => exact Or.inr (Or.inr (by simp [IsClosed, hentry]))
  | some entry =>
    cases entry with
    | directory => exact Or.inl rfl
    | link target => exact Or.inr (Or.inl ⟨target, rfl⟩)
    | file id => exact Or.inr (Or.inr (by simp [IsClosed, hentry, Entry.isWay]))
    | device device => exact Or.inr (Or.inr (by simp [IsClosed, hentry, Entry.isWay]))

/-- Two views of what stands where, with the same directories and links. -/
def SameWays (look look' : Place → Option Entry) : Prop :=
  ∀ place entry, entry.isWay = true → (look place = some entry ↔ look' place = some entry)

/-- A view in which the directories and links of another one are still there. -/
def KeepsWays (look look' : Place → Option Entry) : Prop :=
  ∀ place entry, entry.isWay = true → look place = some entry → look' place = some entry

namespace SameWays

variable {look look' look'' : Place → Option Entry}

theorem refl (look : Place → Option Entry) : SameWays look look := fun _ _ _ => Iff.rfl

theorem trans (h : SameWays look look') (h' : SameWays look' look'') : SameWays look look'' :=
  fun place entry hway => (h place entry hway).trans (h' place entry hway)

theorem symm (h : SameWays look look') : SameWays look' look :=
  fun place entry hway => (h place entry hway).symm

theorem keeps (h : SameWays look look') : KeepsWays look look' :=
  fun place entry hway => (h place entry hway).mp

/-- Where no way goes on in one view, none goes on in the other. -/
theorem closed (h : SameWays look look') {place : Place} (hclosed : IsClosed look place) :
    IsClosed look' place := by
  intro entry hentry
  cases hway : entry.isWay with
  | false => rfl
  | true => exact (hclosed entry ((h place entry hway).mpr hentry)).symm.trans hway |>.symm

end SameWays

/-- A stop that is no failure, and behind which no new way begins. -/
def Stop.Lasts (look look' : Place → Option Entry) : Stop → Prop
  | .at place => IsClosed look place → IsClosed look' place
  | .link _ _ _ => True
  | .failed _ => False

/-- A stop at a link that is not followed. -/
def Stop.IsLink (look : Place → Option Entry) (stop : Stop) : Prop :=
  ∃ place target, stop = .at place ∧ look place = some (.link target)

variable {look look' : Place → Option Entry} {aim : Aim} {base place : Place} {names : List Text}

/-! ### One name -/

section Name

variable {name : Text} {behind : List Text}

/-- Where following a name stops that is none of the special ones. -/
def enter (look : Place → Option Entry) (aim : Aim) (base : Place) (name : Text)
    (behind : List Text) : Stop :=
  match look (base ++ [name]) with
  | some .directory => descend look aim (base ++ [name]) behind
  | some (.link target) =>
    if behind.isEmpty && aim = .place then .at (base ++ [name]) else .link base target behind
  | some _ => if behind.isEmpty then .at (base ++ [name]) else .failed .notDirectory
  | none => if behind.isEmpty then .at (base ++ [name]) else .failed .noEntry

/-- Whether a name is passed over. -/
def isStill (name : Text) : Bool := name = [] || name = ['.']

/-- Why a name is not looked up. -/
def refusal? (aim : Aim) (name : Text) (behind : List Text) : Option SystemError :=
  if aim = .file && behind = [[]] then some .isDirectory
  else if maxNameLength < (Text.encode name).length then some .nameTooLong
  else none

/-- The four things that can become of a name. -/
theorem descend_cons (look : Place → Option Entry) (aim : Aim) (base : Place) (name : Text)
    (behind : List Text) :
    descend look aim base (name :: behind)
      = if isStill name then descend look aim base behind
        else if name = ['.', '.'] then descend look aim base.dropLast behind
        else
          match refusal? aim name behind with
          | some error => .failed error
          | none => enter look aim base name behind := by
  rw [descend]
  simp only [isStill, refusal?, Bool.or_eq_true, decide_eq_true_eq]
  split
  · rfl
  split
  · rfl
  split
  · rfl
  split
  · rfl
  · rfl

theorem enter_of_closed (hclosed : IsClosed look (base ++ [name]))
    (hlasts : (enter look aim base name behind).Lasts look look') :
    behind = [] ∧ enter look aim base name behind = .at (base ++ [name]) := by
  unfold enter at hlasts ⊢
  cases hentry : look (base ++ [name]) with
  | none => cases behind <;> simp_all [Stop.Lasts]
  | some entry =>
    cases entry with
    | directory => exact Bool.noConfusion (hclosed _ hentry)
    | link target => exact Bool.noConfusion (hclosed _ hentry)
    | file id => cases behind <;> simp_all [Stop.Lasts]
    | device device => cases behind <;> simp_all [Stop.Lasts]

theorem enter_nil_of_closed (hclosed : IsClosed look (base ++ [name])) :
    enter look aim base name [] = .at (base ++ [name]) := by
  unfold enter
  cases hentry : look (base ++ [name]) with
  | none => rfl
  | some entry =>
    cases entry with
    | directory => exact Bool.noConfusion (hclosed _ hentry)
    | link target => exact Bool.noConfusion (hclosed _ hentry)
    | file id => rfl
    | device device => rfl

/-- Only a way goes on from a place, and where ways are kept it is the same one. -/
theorem enter_congr (h : KeepsWays look look')
    (hbehind : ∀ base, (descend look aim base behind).Lasts look look' →
      descend look' aim base behind = descend look aim base behind)
    (hlasts : (enter look aim base name behind).Lasts look look') :
    enter look' aim base name behind = enter look aim base name behind := by
  rcases way_cases look (base ++ [name]) with hentry | ⟨target, hentry⟩ | hclosed
  · have hentry' := h _ _ rfl hentry
    simp only [enter, hentry, hentry'] at hlasts ⊢
    exact hbehind _ hlasts
  · have hentry' := h _ _ rfl hentry
    simp only [enter, hentry, hentry']
  · obtain ⟨rfl, hat⟩ := enter_of_closed hclosed hlasts
    rw [hat] at hlasts ⊢
    exact enter_nil_of_closed (hlasts hclosed)

/-- A name that is looked up for a file is looked up for any purpose. -/
theorem refusal?_of_file (h : refusal? .file name behind = none) :
    refusal? aim name behind = none := by
  unfold refusal? at h ⊢
  split at h
  · cases h
  next hslash =>
    rw [if_neg, h]
    intro hfile
    exact hslash (by simpa using (Bool.and_eq_true_iff.mp hfile).2)

theorem enter_target
    (hbehind : ∀ base, (descend look .file base behind).Lasts look look →
      descend look .target base behind = descend look .file base behind)
    (hlasts : (enter look .file base name behind).Lasts look look) :
    enter look .target base name behind = enter look .file base name behind := by
  rcases way_cases look (base ++ [name]) with hentry | ⟨target, hentry⟩ | hclosed
  · simp only [enter, hentry] at hlasts ⊢
    exact hbehind _ hlasts
  · simp [enter, hentry]
  · obtain ⟨rfl, hat⟩ := enter_of_closed hclosed hlasts
    rw [hat, enter_nil_of_closed hclosed]

/-- A link that ends the way to a place is followed on the way to a file; all else is the same. -/
theorem enter_place
    (hbehind : ∀ base, (descend look .file base behind).Lasts look look →
      (descend look .place base behind).IsLink look
        ∨ descend look .place base behind = descend look .file base behind)
    (hlasts : (enter look .file base name behind).Lasts look look) :
    (enter look .place base name behind).IsLink look
      ∨ enter look .place base name behind = enter look .file base name behind := by
  rcases way_cases look (base ++ [name]) with hentry | ⟨target, hentry⟩ | hclosed
  · simp only [enter, hentry] at hlasts ⊢
    exact hbehind _ hlasts
  · cases behind with
    | nil => exact Or.inl ⟨base ++ [name], target, by simp [enter, hentry], hentry⟩
    | cons next behind => exact Or.inr (by simp [enter, hentry])
  · obtain ⟨rfl, hat⟩ := enter_of_closed hclosed hlasts
    rw [hat, enter_nil_of_closed hclosed]
    exact Or.inr rfl

end Name

/-! ### Views with the same ways -/

/-- Following names for two aims, or in two views, compares as entering each name that is looked up
does. -/
theorem descend_related {aim' : Aim} (R : Stop → Stop → Prop)
    (hat : ∀ base, R (.at base) (.at base))
    (hfailed : ∀ error stop, R (.failed error) stop)
    (hasked : ∀ name behind, refusal? aim name behind = none → refusal? aim' name behind = none)
    (henter : ∀ base name behind,
      (∀ base, R (descend look aim base behind) (descend look' aim' base behind)) →
      R (enter look aim base name behind) (enter look' aim' base name behind))
    (names : List Text) (base : Place) :
    R (descend look aim base names) (descend look' aim' base names) := by
  induction names generalizing base with
  | nil => exact hat base
  | cons name behind ih =>
    rw [descend_cons look, descend_cons look']
    split
    · exact ih base
    split
    · exact ih base.dropLast
    cases hrefusal : refusal? aim name behind with
    | some error => exact hfailed error _
    | none =>
      rw [hasked name behind hrefusal]
      exact henter base name behind ih

/-- Names that can be followed in one view are followed the same way where its ways are kept. -/
theorem descend_congr (h : KeepsWays look look') (names : List Text) (base : Place)
    (hlasts : (descend look aim base names).Lasts look look') :
    descend look' aim base names = descend look aim base names :=
  descend_related (fun stop stop' => stop.Lasts look look' → stop' = stop) (fun _ _ => rfl)
    (fun _ _ => False.elim) (fun _ _ => id) (fun _ _ _ => enter_congr h) names base hlasts

/-- Names that lead to a file are followed the same way where it does not matter what they lead
to. -/
theorem descend_target (names : List Text) (base : Place)
    (hlasts : (descend look .file base names).Lasts look look) :
    descend look .target base names = descend look .file base names :=
  descend_related (fun stop stop' => stop.Lasts look look → stop' = stop) (fun _ _ => rfl)
    (fun _ _ => False.elim) (fun _ _ => refusal?_of_file) (fun _ _ _ => enter_target) names base
    hlasts

/-- Names that lead to a file lead to its place in the same way, unless a link stands there. -/
theorem descend_place (names : List Text) (base : Place)
    (hlasts : (descend look .file base names).Lasts look look) :
    (descend look .place base names).IsLink look
      ∨ descend look .place base names = descend look .file base names :=
  descend_related (fun stop stop' => stop.Lasts look look → stop'.IsLink look ∨ stop' = stop)
    (fun _ _ => Or.inr rfl) (fun _ _ => False.elim) (fun _ _ => refusal?_of_file)
    (fun _ _ _ => enter_place) names base hlasts

theorem walk_of_at {links : Nat} (h : descend look aim base names = .at place) :
    walk look aim links base names = .ok place := by
  cases links <;> simp [walk, h]

/-- Where a way ends at no link, its first names lead to the same stop for a file. -/
theorem descend_place_of_walk {links : Nat}
    (hlink : ∀ found target, walk look .place links base names = .ok found →
      look found ≠ some (.link target))
    (hlasts : (descend look .file base names).Lasts look look) :
    descend look .place base names = descend look .file base names := by
  refine (descend_place names base hlasts).resolve_left ?_
  rintro ⟨found, target, hat, hfound⟩
  exact hlink found target (walk_of_at hat) hfound

/-- A way to a file, at whose end no link stands, is the way to its place. -/
theorem walk_place {links : Nat}
    (hlink : ∀ found target, walk look .place links base names = .ok found →
      look found ≠ some (.link target))
    (hwalk : walk look .file links base names = .ok place) :
    walk look .place links base names = .ok place := by
  induction links generalizing base names with
  | zero =>
    have hfirst := descend_place_of_walk hlink
    unfold walk at hwalk ⊢
    cases hstop : descend look .file base names with
    | «at» found =>
      rw [hfirst (by rw [hstop]; exact id), hstop]
      simpa only [hstop] using hwalk
    | link base' target behind => simp [hstop] at hwalk
    | failed error => simp [hstop] at hwalk
  | succ links ih =>
    have hfirst := descend_place_of_walk hlink
    unfold walk at hwalk hlink ⊢
    cases hstop : descend look .file base names with
    | «at» found =>
      rw [hfirst (by rw [hstop]; exact id), hstop]
      simpa only [hstop] using hwalk
    | link base' target behind =>
      rw [hfirst (by rw [hstop]; trivial), hstop] at hlink ⊢
      simp only [hstop] at hwalk hlink ⊢
      split at hwalk
      · cases hwalk
      next hempty =>
        simp only [if_neg hempty] at hlink ⊢
        exact ih hlink hwalk
    | failed error => simp [hstop] at hwalk

theorem walk_eq {aim' : Aim}
    (h : ∀ names base, (descend look aim base names).Lasts look look' →
      descend look' aim' base names = descend look aim base names) {links : Nat}
    (hend : IsClosed look place → IsClosed look' place)
    (hwalk : walk look aim links base names = .ok place) :
    walk look' aim' links base names = .ok place := by
  induction links generalizing base names with
  | zero =>
    unfold walk at hwalk ⊢
    cases hstop : descend look aim base names with
    | «at» found =>
      simp only [hstop, Except.ok.injEq] at hwalk
      subst hwalk
      rw [h names base (by rw [hstop]; exact hend), hstop]
    | link base' target behind => simp [hstop] at hwalk
    | failed error => simp [hstop] at hwalk
  | succ links ih =>
    unfold walk at hwalk ⊢
    cases hstop : descend look aim base names with
    | «at» found =>
      simp only [hstop, Except.ok.injEq] at hwalk
      subst hwalk
      rw [h names base (by rw [hstop]; exact hend), hstop]
    | link base' target behind =>
      rw [h names base (by rw [hstop]; trivial), hstop]
      simp only [hstop] at hwalk ⊢
      split at hwalk
      · cases hwalk
      next hempty =>
        rw [if_neg hempty]
        exact ih hwalk
    | failed error => simp [hstop] at hwalk

variable {disk disk' : Disk} {path : Text}

/-- A path that leads somewhere leads there where ways are kept and no new one begins there. -/
theorem follow_keeps (h : KeepsWays disk.at? disk'.at?) (hcurrent : disk'.current = disk.current)
    (hend : IsClosed disk.at? place → IsClosed disk'.at? place)
    (hfollow : disk.follow aim path names = .ok place) :
    disk'.follow aim path names = .ok place := by
  unfold follow at hfollow ⊢
  split at hfollow
  · cases hfollow
  · rw [hcurrent]
    exact walk_eq (descend_congr h) hend hfollow

/-- A path that leads somewhere leads there on every disk with the same ways. -/
theorem follow_congr (h : SameWays disk.at? disk'.at?) (hcurrent : disk'.current = disk.current)
    (hfollow : disk.follow aim path names = .ok place) :
    disk'.follow aim path names = .ok place :=
  follow_keeps h.keeps hcurrent h.closed hfollow

/-- A path that leads to a file leads there for every purpose that follows links. -/
theorem place?_of_filePlace? (h : disk.filePlace? path = .ok place) :
    disk.place? path = .ok place := by
  unfold filePlace? follow at h
  unfold place? follow
  split at h
  · cases h
  · exact walk_eq descend_target id h

/-- A path that leads to a file, and at whose end no link stands, leads to its own place. -/
theorem ownPlace?_of_filePlace? (hslash : Path.endsInSlash path = false)
    (hlink : ∀ found target, disk.ownPlace? path = .ok found → disk.at? found ≠ some (.link target))
    (h : disk.filePlace? path = .ok place) : disk.ownPlace? path = .ok place := by
  have hsteps : steps path = Path.names path := by simp [steps, hslash]
  unfold filePlace? follow at h
  unfold ownPlace? follow at hlink ⊢
  rw [hsteps] at h
  split at h
  · cases h
  next hasked =>
    simp only [hasked] at hlink ⊢
    exact walk_place hlink h

/-! ### Where ways end -/

/-- Whether everything stands in a directory. -/
structure IsRooted (look : Place → Option Entry) : Prop where
  root : look [] = some .directory
  parent : ∀ place name, look (place ++ [name]) ≠ none → look place = some .directory

/-- Whether a place is a directory or in one. -/
def IsSeat (look : Place → Option Entry) (place : Place) : Prop :=
  look place = some .directory
    ∨ ∃ parent name, place = parent ++ [name] ∧ look parent = some .directory

/-- Whether names stop at a seat, or at a link in a directory. -/
def Stop.IsSeated (look : Place → Option Entry) : Stop → Prop
  | .at place => IsSeat look place
  | .link base _ _ => look base = some .directory
  | .failed _ => True

theorem IsRooted.dropLast (h : IsRooted look) (hbase : look base = some .directory) :
    look base.dropLast = some .directory := by
  rcases List.eq_nil_or_concat base with rfl | ⟨parent, name, rfl⟩
  · exact hbase
  · rw [List.concat_eq_append] at hbase ⊢
    rw [List.dropLast_concat]
    exact h.parent parent name (by simp [hbase])

theorem descend_isSeated (aim : Aim) (h : IsRooted look) (names : List Text)
    (hbase : look base = some .directory) : (descend look aim base names).IsSeated look := by
  induction names generalizing base with
  | nil => exact Or.inl hbase
  | cons name behind ih =>
    rw [descend_cons]
    split
    · exact ih hbase
    split
    · exact ih (h.dropLast hbase)
    split
    · trivial
    · have hseat : IsSeat look (base ++ [name]) := Or.inr ⟨base, name, rfl, hbase⟩
      unfold enter
      split
      next hentry => exact ih hentry
      · split
        · exact hseat
        · exact hbase
      · split
        · exact hseat
        · trivial
      · split
        · exact hseat
        · trivial

theorem isSeat_of_walk (h : IsRooted look) (hbase : look base = some .directory) {links : Nat}
    (hwalk : walk look aim links base names = .ok place) : IsSeat look place := by
  induction links generalizing base names with
  | zero =>
    have hseated := descend_isSeated aim h names hbase
    unfold walk at hwalk
    cases hstop : descend look aim base names with
    | «at» found =>
      simp only [hstop, Except.ok.injEq] at hwalk hseated
      exact hwalk ▸ hseated
    | link base' target behind => simp [hstop] at hwalk
    | failed error => simp [hstop] at hwalk
  | succ links ih =>
    have hseated := descend_isSeated aim h names hbase
    unfold walk at hwalk
    cases hstop : descend look aim base names with
    | «at» found =>
      simp only [hstop, Except.ok.injEq] at hwalk hseated
      exact hwalk ▸ hseated
    | link base' target behind =>
      simp only [hstop] at hwalk hseated
      split at hwalk
      · cases hwalk
      · refine ih ?_ hwalk
        split
        · exact h.root
        · exact hseated
    | failed error => simp [hstop] at hwalk

/-- A path leads to a directory or into one. -/
theorem isSeat_of_follow (h : IsRooted disk.at?)
    (hcurrent : disk.at? disk.current = some .directory)
    (hfollow : disk.follow aim path names = .ok place) : IsSeat disk.at? place := by
  unfold follow at hfollow
  split at hfollow
  · cases hfollow
  · refine isSeat_of_walk h ?_ hfollow
    split
    · exact h.root
    · exact hcurrent

end Disk
end StepRecorder
