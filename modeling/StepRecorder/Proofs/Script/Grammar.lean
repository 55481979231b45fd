import Mathlib.Data.List.Forall2
import Mathlib.Data.List.TakeWhile
import StepRecorder.Proofs.Script
import StepRecorder.Proofs.Text.Numeral
import StepRecorder.Proofs.Text.Search

/-!
The grammar of scripts. A line is written in one form at most, and its parts are known from it:

    Open Browser                      in either case
    Navigate to <url>
    Verify <name> is visible
    Tap on <name>
    Type <text> in <name>             at the last " in " between two parts
    Wait for <digits>[ second[s]]

What a form reads as is a step, but for a wait whose digits are not all ASCII or whose value does
not fit 64 bits. A line in none of the forms is not recognized. A script is read line by line, and
the first line that is no step decides.

Main statements: `Form.Writes.unique`, `reads_iff`, `parse_follows_grammar`.
-/

namespace StepRecorder

namespace Step

/-- A text that is split around a separator into two parts that are not empty, and cannot be so
further to the right. -/
structure SplitsLast (separator text left right : Text) : Prop where
  parts : text = left ++ (separator ++ right)
  left_ne : left ≠ []
  right_ne : right ≠ []
  last : ∀ other rest, text = other ++ (separator ++ rest) → other ≠ [] → rest ≠ [] →
    other.length ≤ left.length

/-- The forms of a line, with their parts as they are written. -/
inductive Form where
  | openBrowser
  | navigate (url : Text)
  | verify (name : Text)
  | tap (name : Text)
  | enter (text name : Text)
  | wait (digits : Text)
  deriving Repr, DecidableEq

/-- Whether a line is written in a form. -/
def Form.Writes : Form → Text → Prop
  | .openBrowser, line => line.map Char.toLower = "Open Browser".toList.map Char.toLower
  | .navigate url, line => url ≠ [] ∧ line = "Navigate to ".toList ++ url
  | .verify name, line =>
    name ≠ [] ∧ line = "Verify ".toList ++ (name ++ " is visible".toList)
  | .tap name, line => name ≠ [] ∧ line = "Tap on ".toList ++ name
  | .enter text name, line =>
    ∃ rest, SplitsLast " in ".toList rest text name ∧ line = "Type ".toList ++ rest
  | .wait digits, line =>
    digits ≠ [] ∧ (∀ c ∈ digits, Text.isDigit c = true)
      ∧ ∃ ending ∈ [[], " second".toList, " seconds".toList],
        line = "Wait for ".toList ++ (digits ++ ending)

/-- What a form reads as. -/
def Form.reading : Form → Except Fault Step
  | .openBrowser => .ok .openBrowser
  | .navigate url => .ok (.navigate (Text.trim url))
  | .verify name => .ok (.verify (Text.trim name))
  | .tap name => .ok (.tap (Text.trim name))
  | .enter text name => .ok (.enter (Text.trim text) (Text.trim name))
  | .wait digits =>
    if digits.all Char.isDigit = true ∧ Text.decimalValue digits < 2 ^ 64 then
      .ok (.wait (Text.decimalValue digits))
    else .error (.invalidWait digits)

/-- What a line reads as: what its form does, if it has one. -/
def Reads (line : Text) (reading : Except Fault Step) : Prop :=
  (∃ form : Form, form.Writes line ∧ reading = form.reading)
    ∨ (∀ form : Form, ¬ form.Writes line) ∧ reading = .error .unrecognized

variable {separator text left right lead ending line rest digits : Text} {form other : Form}

/-! ### The parts of a line -/

theorem tail?_eq_some_iff : tail? lead line = some rest ↔ rest ≠ [] ∧ line = lead ++ rest := by
  constructor
  · intro h
    obtain ⟨found, hfound, hrest⟩ := Option.bind_eq_some_iff.mp h
    split at hrest
    · cases hrest
    next hne =>
      obtain rfl := Option.some.inj hrest
      exact ⟨by simpa using hne, Text.eq_append_of_after? hfound⟩
  · rintro ⟨hne, rfl⟩
    exact tail?_append lead hne

theorem head?_eq_some_iff : head? ending line = some rest ↔ rest ≠ [] ∧ line = rest ++ ending := by
  simp only [head?, Option.map_eq_some_iff, tail?_eq_some_iff]
  constructor
  · rintro ⟨found, ⟨hne, hline⟩, rfl⟩
    refine ⟨by simpa using hne, ?_⟩
    rw [← List.reverse_inj, hline, List.reverse_append, List.reverse_reverse]
  · rintro ⟨hne, rfl⟩
    exact ⟨rest.reverse, ⟨by simpa using hne, List.reverse_append⟩, List.reverse_reverse rest⟩

/-- Where nothing is found, there is nothing to split. -/
theorem eq_nil_of_splitLast?_eq_none (h : splitLast? separator text = none)
    (hparts : text = left ++ (separator ++ right)) (hleft : left ≠ []) : right = [] := by
  induction text generalizing left with
  | nil => exact absurd (List.append_eq_nil_iff.mp hparts.symm).1 hleft
  | cons c text ih =>
    rw [splitLast?] at h
    cases hrest : splitLast? separator text with
    | some found =>
      rw [hrest] at h
      cases h
    | none =>
      rw [hrest] at h
      have hnone : tail? separator text = none := Option.map_eq_none_iff.mp h
      obtain ⟨d, tail, rfl⟩ := List.exists_cons_of_ne_nil hleft
      obtain ⟨-, htext⟩ := List.cons.inj hparts
      by_cases htail : tail = []
      · by_contra hright
        -- the separator begins the rest, where it was not found
        subst htail
        cases hnone.symm.trans (tail?_eq_some_iff.mpr ⟨hright, htext⟩)
      · exact ih hrest htext htail

/-- What is found is the last split: one further to the right would be found in the rest. -/
theorem splitsLast_of_splitLast? (h : splitLast? separator text = some (left, right)) :
    SplitsLast separator text left right := by
  induction text generalizing left with
  | nil => cases h
  | cons c text ih =>
    rw [splitLast?] at h
    cases hrest : splitLast? separator text with
    | some found =>
      obtain ⟨before, after⟩ := found
      rw [hrest] at h
      obtain ⟨rfl, rfl⟩ := Prod.mk.inj (Option.some.inj h)
      obtain ⟨hparts, hbefore, hafter, hlast⟩ := ih hrest
      refine ⟨by rw [hparts, List.cons_append], List.cons_ne_nil c before, hafter, ?_⟩
      intro other more hother hne hmore
      obtain ⟨d, tail, rfl⟩ := List.exists_cons_of_ne_nil hne
      by_cases htail : tail = []
      · simp [htail]
      · exact Nat.succ_le_succ (hlast tail more (List.cons.inj hother).2 htail hmore)
    | none =>
      rw [hrest] at h
      obtain ⟨found, hfound, hpair⟩ := Option.map_eq_some_iff.mp h
      obtain ⟨rfl, rfl⟩ := Prod.mk.inj hpair
      obtain ⟨hne, htext⟩ := tail?_eq_some_iff.mp hfound
      refine ⟨by rw [htext, List.singleton_append], List.cons_ne_nil c [], hne, ?_⟩
      intro other more hother hotherNe hmore
      obtain ⟨d, tail, rfl⟩ := List.exists_cons_of_ne_nil hotherNe
      by_cases htail : tail = []
      · simp [htail]
      · exact absurd (eq_nil_of_splitLast?_eq_none hrest (List.cons.inj hother).2 htail) hmore

theorem SplitsLast.unique {left' right' : Text} (h : SplitsLast separator text left right)
    (h' : SplitsLast separator text left' right') : left = left' ∧ right = right' := by
  have hle := h.last left' right' h'.parts h'.left_ne h'.right_ne
  have hge := h'.last left right h.parts h.left_ne h.right_ne
  have hparts := h.parts.symm.trans h'.parts
  obtain ⟨hleft, hrest⟩ := List.append_inj hparts (Nat.le_antisymm hge hle)
  exact ⟨hleft, List.append_cancel_left hrest⟩

theorem splitLast?_eq_some_iff :
    splitLast? separator text = some (left, right) ↔ SplitsLast separator text left right := by
  constructor
  · exact splitsLast_of_splitLast?
  · intro h
    cases hfound : splitLast? separator text with
    | none => exact absurd (eq_nil_of_splitLast?_eq_none hfound h.parts h.left_ne) h.right_ne
    | some found =>
      obtain ⟨hleft, hright⟩ := (splitsLast_of_splitLast? hfound).unique h
      exact congrArg some (Prod.ext hleft hright)

example : splitLast? " in ".toList "a in in b".toList = some ("a in".toList, "b".toList) := by
  decide +kernel

/-- The digits of a wait end where its ending begins, which no digit can. -/
theorem waitDigits?_eq_some_iff :
    waitDigits? line = some digits ↔ (Form.wait digits).Writes line := by
  have hunits : ∀ ending ∈ waitUnits,
      ending.takeWhile Text.isDigit = [] ∧ ending.dropWhile Text.isDigit = ending := by
    decide +kernel
  simp only [waitDigits?, Option.bind_eq_bind, Option.bind_eq_some_iff, Text.after?_eq_some_iff]
  constructor
  · rintro ⟨rest, rfl, h⟩
    split at h
    · cases h
    next hne =>
      split at h
      next hending =>
        obtain rfl := Option.some.inj h
        refine ⟨by simpa using hne, fun c hc => List.mem_takeWhile_imp hc,
          rest.dropWhile Text.isDigit, hending, ?_⟩
        rw [List.takeWhile_append_dropWhile]
      · cases h
  · rintro ⟨hne, hdigits, ending, hending, rfl⟩
    obtain ⟨htake, hdrop⟩ := hunits ending hending
    refine ⟨digits ++ ending, rfl, ?_⟩
    -- no ending begins with a digit, so the run of digits is cut where it ends
    have hread : (digits ++ ending).takeWhile Text.isDigit = digits := by
      rw [List.takeWhile_append_of_pos hdigits, htake, List.append_nil]
    have hleft : (digits ++ ending).dropWhile Text.isDigit = ending := by
      rw [List.dropWhile_append_of_pos hdigits, hdrop]
    rw [hread, hleft, if_neg (by simpa using hne),
      if_pos (show ending ∈ waitUnits from hending)]

/-! ### The forms of a line -/

theorem isOpenBrowser_iff : isOpenBrowser line = true ↔ Form.openBrowser.Writes line := by
  have hlower : "open browser".toList = "Open Browser".toList.map Char.toLower := by decide +kernel
  rw [isOpenBrowser, decide_eq_true_eq, hlower]
  rfl

theorem verify?_eq_some_iff {name : Text} :
    (tail? "Verify ".toList line).bind (head? " is visible".toList) = some name
      ↔ (Form.verify name).Writes line := by
  simp only [Option.bind_eq_some_iff, tail?_eq_some_iff, head?_eq_some_iff]
  constructor
  · rintro ⟨rest, ⟨-, rfl⟩, hne, rfl⟩
    exact ⟨hne, rfl⟩
  · rintro ⟨hne, rfl⟩
    exact ⟨name ++ " is visible".toList, ⟨by simp [hne], rfl⟩, hne, rfl⟩

theorem enter?_eq_some_iff {name : Text} :
    (Text.after? "Type ".toList line).bind (splitLast? " in ".toList) = some (text, name)
      ↔ (Form.enter text name).Writes line := by
  simp only [Option.bind_eq_some_iff, Text.after?_eq_some_iff, splitLast?_eq_some_iff]
  exact exists_congr fun rest => and_comm

/-- The two letters that a form begins with. -/
def Form.mark : Form → Text
  | .openBrowser => ['o', 'p']
  | .navigate _ => ['n', 'a']
  | .verify _ => ['v', 'e']
  | .tap _ => ['t', 'a']
  | .enter _ _ => ['t', 'y']
  | .wait _ => ['w', 'a']

theorem Form.Writes.take_two (h : form.Writes line) :
    (line.take 2).map Char.toLower = form.mark := by
  cases form with
  | openBrowser =>
    rw [List.map_take, h]
    decide +kernel
  | navigate url => obtain ⟨-, rfl⟩ := h; rfl
  | verify name => obtain ⟨-, rfl⟩ := h; rfl
  | tap name => obtain ⟨-, rfl⟩ := h; rfl
  | enter text name => obtain ⟨rest, -, rfl⟩ := h; rfl
  | wait digits => obtain ⟨-, -, ending, -, rfl⟩ := h; rfl

/-- The form of a line, with its parts, is known from the line. -/
theorem Form.Writes.unique (h : form.Writes line) (h' : other.Writes line) : form = other := by
  have hmark : form.mark = other.mark := h.take_two.symm.trans h'.take_two
  cases form with
  | openBrowser =>
    cases other with
    | openBrowser => rfl
    | _ => simp [Form.mark] at hmark
  | navigate url =>
    cases other with
    | navigate url' => exact congrArg Form.navigate (List.append_cancel_left (h.2.symm.trans h'.2))
    | _ => simp [Form.mark] at hmark
  | verify name =>
    cases other with
    | verify name' =>
      have hrest := List.append_cancel_left (h.2.symm.trans h'.2)
      exact congrArg Form.verify (List.append_cancel_right hrest)
    | _ => simp [Form.mark] at hmark
  | tap name =>
    cases other with
    | tap name' => exact congrArg Form.tap (List.append_cancel_left (h.2.symm.trans h'.2))
    | _ => simp [Form.mark] at hmark
  | enter text name =>
    cases other with
    | enter text' name' =>
      obtain ⟨rest, hsplit, hline⟩ := h
      obtain ⟨rest', hsplit', hline'⟩ := h'
      obtain rfl := List.append_cancel_left (hline.symm.trans hline')
      obtain ⟨rfl, rfl⟩ := hsplit.unique hsplit'
      rfl
    | _ => simp [Form.mark] at hmark
  | wait digits =>
    cases other with
    | wait digits' =>
      have hdigits := (waitDigits?_eq_some_iff.mpr h).symm.trans (waitDigits?_eq_some_iff.mpr h')
      exact congrArg Form.wait (Option.some.inj hdigits)
    | _ => simp [Form.mark] at hmark

/-! ### What a line reads as -/

theorem reading_wait_of_word? {seconds : Nat} (h : Text.word? digits = some seconds) :
    (Form.wait digits).reading = .ok (.wait seconds) := by
  obtain ⟨-, hascii, rfl, hlt⟩ := Text.word?_eq_some_iff.mp h
  rw [Form.reading, if_pos ⟨List.all_eq_true.mpr hascii, hlt⟩]

theorem reading_wait_of_word?_eq_none (h : Text.word? digits = none) (hne : digits ≠ []) :
    (Form.wait digits).reading = .error (.invalidWait digits) := by
  rw [Form.reading, if_neg]
  rintro ⟨hascii, hlt⟩
  have hword := Text.word?_eq_some_iff.mpr ⟨hne, List.all_eq_true.mp hascii, rfl, hlt⟩
  cases h.symm.trans hword

/-- The forms are tried one after the other, so a line at the end has none of them. -/
theorem reads_ofLine (line : Text) : Reads line (ofLine line) := by
  unfold ofLine
  split
  next h => exact Or.inl ⟨.openBrowser, isOpenBrowser_iff.mp h, rfl⟩
  next hopen =>
    split
    next url h => exact Or.inl ⟨.navigate url, tail?_eq_some_iff.mp h, rfl⟩
    next hnavigate =>
      split
      next name h => exact Or.inl ⟨.verify name, verify?_eq_some_iff.mp h, rfl⟩
      next hverify =>
        split
        next name h => exact Or.inl ⟨.tap name, tail?_eq_some_iff.mp h, rfl⟩
        next htap =>
          split
          next text name h => exact Or.inl ⟨.enter text name, enter?_eq_some_iff.mp h, rfl⟩
          next henter =>
            split
            next digits h =>
              have hform := waitDigits?_eq_some_iff.mp h
              refine Or.inl ⟨.wait digits, hform, ?_⟩
              split
              next seconds hword => exact (reading_wait_of_word? hword).symm
              next hword => exact (reading_wait_of_word?_eq_none hword hform.1).symm
            next hwait =>
              refine Or.inr ⟨?_, rfl⟩
              intro form h
              cases form with
              | openBrowser => exact hopen (isOpenBrowser_iff.mpr h)
              | navigate url => exact hnavigate url (tail?_eq_some_iff.mpr h)
              | verify name => exact hverify name (verify?_eq_some_iff.mpr h)
              | tap name => exact htap name (tail?_eq_some_iff.mpr h)
              | enter text name => exact henter text name (enter?_eq_some_iff.mpr h)
              | wait digits => exact hwait digits (waitDigits?_eq_some_iff.mpr h)

theorem Reads.unique {reading reading' : Except Fault Step} (h : Reads line reading)
    (h' : Reads line reading') : reading = reading' := by
  rcases h with ⟨form, hform, rfl⟩ | ⟨hnone, rfl⟩
  · rcases h' with ⟨other, hother, rfl⟩ | ⟨hnone, -⟩
    · rw [hform.unique hother]
    · exact absurd hform (hnone form)
  · rcases h' with ⟨other, hother, -⟩ | ⟨-, rfl⟩
    · exact absurd hother (hnone other)
    · rfl

theorem reads_iff {reading : Except Fault Step} : Reads line reading ↔ ofLine line = reading := by
  constructor
  · exact (reads_ofLine line).unique
  · rintro rfl
    exact reads_ofLine line

end Step

namespace Script

/-- The lines that are read, each trimmed and with its number. -/
def contentsFrom (number : Nat) (lines : List Text) : List (Text × Nat) :=
  ((lines.map Text.trim).zipIdx number).filter fun entry =>
    entry.1 ≠ [] ∧ entry.1.head? ≠ some '#'

/-- The lines of a text that are read, each trimmed and with its number, counted from 1. -/
def contents (text : Text) : List (Text × Nat) := contentsFrom 1 (Text.lines text)

/-- A step has the number of its line, and is what that line reads as. -/
def Places (entry : Text × Nat) (placed : Placed) : Prop :=
  placed.line = entry.2 ∧ Step.Reads entry.1 (.ok placed.step)

/-- An error is that of the first line that reads as no step. -/
def FailsFirst (entries : List (Text × Nat)) (error : Error) : Prop :=
  ∃ before entry after fault, entries = before ++ entry :: after
    ∧ (∀ earlier ∈ before, ∃ step, Step.Reads earlier.1 (.ok step))
    ∧ Step.Reads entry.1 (.error fault) ∧ error = errorAt entry.2 entry.1 fault

/-- The step of a line that is read. -/
def place (entry : Text × Nat) : Except Error Placed :=
  match Step.ofLine entry.1 with
  | .ok step => .ok ⟨entry.2, step⟩
  | .error fault => .error (errorAt entry.2 entry.1 fault)

variable {entry : Text × Nat}

theorem place_eq_ok_iff {placed : Placed} :
    place entry = .ok placed ↔ Places entry placed := by
  rw [Places, Step.reads_iff, place]
  cases Step.ofLine entry.1 with
  | ok step =>
    constructor
    · rintro ⟨⟩
      exact ⟨rfl, rfl⟩
    · obtain ⟨line, found⟩ := placed
      rintro ⟨rfl, ⟨⟩⟩
      rfl
  | error fault => simp

theorem place_eq_error_iff {error : Error} :
    place entry = .error error
      ↔ ∃ fault, Step.Reads entry.1 (.error fault) ∧ error = errorAt entry.2 entry.1 fault := by
  simp only [Step.reads_iff, place]
  cases Step.ofLine entry.1 with
  | ok step => simp
  | error fault =>
    constructor
    · rintro ⟨⟩
      exact ⟨fault, rfl, rfl⟩
    · rintro ⟨fault', ⟨⟩, rfl⟩
      rfl

theorem isSkipped_iff {content : Text} :
    isSkipped content = true ↔ ¬ (content ≠ [] ∧ content.head? ≠ some '#') := by
  simp only [isSkipped, Bool.or_eq_true, List.isEmpty_iff, decide_eq_true_eq]
  tauto

/-- The steps of a script are those of the lines that are read, none of which sees the others. -/
theorem ofLines_eq_mapM (number : Nat) (lines : List Text) :
    ofLines number lines = (contentsFrom number lines).mapM place := by
  induction lines generalizing number with
  | nil => rfl
  | cons line lines ih =>
    rw [ofLines, ih]
    by_cases hskip : isSkipped (Text.trim line) = true
    · have hcontents : contentsFrom number (line :: lines) = contentsFrom (number + 1) lines :=
        List.filter_cons_of_neg (by simpa using isSkipped_iff.mp hskip)
      rw [if_pos hskip, hcontents]
    · have hread : Text.trim line ≠ [] ∧ (Text.trim line).head? ≠ some '#' := by
        by_contra h
        exact hskip (isSkipped_iff.mpr h)
      have hcontents : contentsFrom number (line :: lines)
          = (Text.trim line, number) :: contentsFrom (number + 1) lines :=
        List.filter_cons_of_pos (by simpa using hread)
      rw [if_neg hskip, hcontents, List.mapM_cons, place]
      cases Step.ofLine (Text.trim line) with
      | error fault => rfl
      | ok step => cases (contentsFrom (number + 1) lines).mapM place <;> rfl

/-- A text is a script of the steps that its lines read as. -/
theorem parse_eq_ok_iff {text : Text} {steps : List Placed} :
    parse text = .ok steps ↔ List.Forall₂ Places (contents text) steps := by
  rw [parse, ofLines_eq_mapM, ← contents]
  generalize contents text = entries
  induction entries generalizing steps with
  | nil => simp [pure, Except.pure, eq_comm]
  | cons entry entries ih =>
    simp only [List.forall₂_cons_left_iff, ← place_eq_ok_iff, ← ih]
    rw [List.mapM_cons]
    cases place entry with
    | error error => simp [bind, Except.bind]
    | ok placed =>
      cases entries.mapM place with
      | error error => simp [bind, Except.bind]
      | ok rest =>
        constructor
        · rintro ⟨⟩
          exact ⟨placed, rest, rfl, rfl, rfl⟩
        · rintro ⟨_, _, ⟨⟩, ⟨⟩, rfl⟩
          rfl

/-- What stands before the first line that reads as no step does not matter. -/
theorem failsFirst_cons_iff {first : Text × Nat} {entries : List (Text × Nat)} {error : Error}
    {step : Step} (h : Step.Reads first.1 (.ok step)) :
    FailsFirst (first :: entries) error ↔ FailsFirst entries error := by
  constructor
  · rintro ⟨before, entry, after, fault, hentries, hbefore, hentry⟩
    rcases List.cons_eq_append_iff.mp hentries with ⟨rfl, hsame⟩ | ⟨rest, rfl, rfl⟩
    · obtain ⟨rfl, rfl⟩ := List.cons.inj hsame
      cases h.unique hentry.1
    · exact ⟨rest, entry, after, fault, rfl, (List.forall_mem_cons.mp hbefore).2, hentry⟩
  · rintro ⟨before, entry, after, fault, rfl, hbefore, hentry⟩
    exact ⟨first :: before, entry, after, fault, rfl,
      List.forall_mem_cons.mpr ⟨⟨step, h⟩, hbefore⟩, hentry⟩

/-- A text is no script because of the first line that reads as no step. -/
theorem parse_eq_error_iff {text : Text} {error : Error} :
    parse text = .error error ↔ FailsFirst (contents text) error := by
  rw [parse, ofLines_eq_mapM, ← contents]
  generalize contents text = entries
  induction entries with
  | nil =>
    constructor
    · intro h
      cases h
    · rintro ⟨before, entry, after, fault, h, -⟩
      cases (List.append_eq_nil_iff.mp h.symm).2
  | cons first entries ih =>
    rw [List.mapM_cons]
    cases hfirst : place first with
    | error found =>
      obtain ⟨fault, hfault, rfl⟩ := place_eq_error_iff.mp hfirst
      constructor
      · rintro ⟨⟩
        exact ⟨[], first, entries, fault, rfl, List.forall_mem_nil _, hfault, rfl⟩
      · rintro ⟨before, entry, after, fault', hentries, hbefore, hentry, rfl⟩
        rcases List.cons_eq_append_iff.mp hentries with ⟨rfl, hsame⟩ | ⟨rest, rfl, rfl⟩
        · obtain ⟨rfl, rfl⟩ := List.cons.inj hsame
          cases hentry.unique hfault
          rfl
        · obtain ⟨step, hstep⟩ := hbefore first List.mem_cons_self
          cases hstep.unique hfault
    | ok placed =>
      rw [failsFirst_cons_iff (place_eq_ok_iff.mp hfirst).2, ← ih]
      cases entries.mapM place with
      | error found => rfl
      | ok rest => simp [bind, Except.bind, pure, Except.pure]

/-- A text is a script if each of its lines that is read is a step. -/
theorem exists_parse_eq_ok_iff {text : Text} :
    (∃ steps, parse text = .ok steps)
      ↔ ∀ entry ∈ contents text, ∃ step, Step.Reads entry.1 (.ok step) := by
  constructor
  · rintro ⟨steps, hsteps⟩ entry hentry
    have hread := parse_eq_ok_iff.mp hsteps
    obtain ⟨index, hindex, rfl⟩ := List.mem_iff_getElem.mp hentry
    exact ⟨_, (hread.get hindex (hread.length_eq ▸ hindex)).2⟩
  · intro hall
    cases hparse : parse text with
    | ok steps => exact ⟨steps, rfl⟩
    | error error =>
      obtain ⟨before, entry, after, fault, hentries, -, hfault, -⟩ := parse_eq_error_iff.mp hparse
      obtain ⟨step, hstep⟩ := hall entry (by simp [hentries])
      cases hstep.unique hfault

/-- The parser accepts exactly the grammar. No line has two forms, and each line reads as one
thing, whatever stands around it. A text is a script of what its lines read as if all of them are
steps, and otherwise the first that is none is told with its number. -/
theorem parse_follows_grammar (text : Text) :
    (∀ (line : Text) (form other : Step.Form),
        form.Writes line → other.Writes line → form = other)
      ∧ (∀ line : Text, ∃! reading, Step.Reads line reading)
      ∧ (∀ steps, parse text = .ok steps ↔ List.Forall₂ Places (contents text) steps)
      ∧ ((∃ steps, parse text = .ok steps)
        ↔ ∀ entry ∈ contents text, ∃ step, Step.Reads entry.1 (.ok step))
      ∧ ∀ error, parse text = .error error ↔ FailsFirst (contents text) error :=
  ⟨fun _ _ _ h h' => h.unique h',
    fun line => ⟨Step.ofLine line, Step.reads_ofLine line, fun _ h => (Step.reads_iff.mp h).symm⟩,
    fun _ => parse_eq_ok_iff, exists_parse_eq_ok_iff, fun _ => parse_eq_error_iff⟩

example : parse "# login\n\n  open BROWSER\nWait for 007 seconds\nWait 2".toList
    = .error (.unrecognized 5 "Wait 2".toList) := by
  decide +kernel

end Script
end StepRecorder
