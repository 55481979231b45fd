import StepRecorder.Proofs.Script.Grammar

/-!
The texts by which steps refer to something: the names of elements, and urls. They are trimmed and
on one line. Most of them stand at the end of their line, which is trimmed too, and so is not blank
there; the name of an element to verify stands in the middle, and nothing keeps it from being blank:

    Navigate to <url>                 ends its line
    Verify <name> is visible          can be blank, and then refers to the empty name
    Tap on <name>                     ends its line
    Type <text> in <name>             ends its line

Main statement: `references_are_filled_unless_blank_is_verified`.
-/

namespace StepRecorder

namespace Step

/-- Whether a step refers to an element by its name, or to a page by its url. -/
def RefersBy (step : Step) (name : Text) : Prop :=
  step.elementName? = some name ∨ step = .navigate name

/-- Whether a line verifies that blanks are visible. -/
def VerifiesBlanks (line : Text) : Prop :=
  ∃ blanks, blanks ≠ [] ∧ (∀ c ∈ blanks, Text.isBlank c = true)
    ∧ line = "Verify ".toList ++ (blanks ++ " is visible".toList)

/-- What holds of the texts by which the step of a line refers to something. -/
structure IsTidy (line : Text) (step : Step) : Prop where
  trimmed (name : Text) : step.RefersBy name → Text.IsTrimmed name
  unbroken (name : Text) : step.RefersBy name → '\n' ∉ name
  filled (name : Text) : step.RefersBy name → (name = [] ↔ VerifiesBlanks line)
  unsplit (text name : Text) : step = .enter text name → ¬ " in ".toList <:+: name

/-- The part of a form by which its step refers to something, as it is written. -/
def Form.reference? : Form → Option Text
  | .navigate url => some url
  | .verify name => some name
  | .tap name => some name
  | .enter _ name => some name
  | _ => none

variable {line part name lead text left right : Text} {step : Step} {form : Form}

theorem Form.exists_reference? (hstep : form.reading = .ok step) (h : step.RefersBy name) :
    ∃ part, form.reference? = some part ∧ name = Text.trim part := by
  unfold RefersBy at h
  cases form with
  | openBrowser =>
    obtain rfl := Except.ok.inj hstep
    simp [elementName?] at h
  | navigate url =>
    obtain rfl := Except.ok.inj hstep
    simp only [elementName?, reduceCtorEq, false_or, Step.navigate.injEq] at h
    exact ⟨url, rfl, h.symm⟩
  | verify found | tap found | enter text found =>
    obtain rfl := Except.ok.inj hstep
    simp only [elementName?, Option.some.injEq, reduceCtorEq, or_false] at h
    exact ⟨found, rfl, h.symm⟩
  | wait digits =>
    rw [Form.reading] at hstep
    split at hstep
    · obtain rfl := Except.ok.inj hstep
      simp [elementName?] at h
    · cases hstep

/-- Only the name of an element to verify does not end its line. -/
theorem Form.Writes.exists_lead (h : form.Writes line) (hpart : form.reference? = some part) :
    part ≠ [] ∧ ∃ lead ending, line = lead ++ (part ++ ending)
      ∧ (ending = [] ∨ form = .verify part) := by
  cases form with
  | openBrowser | wait digits => cases hpart
  | navigate found | tap found =>
    obtain rfl := Option.some.inj hpart
    obtain ⟨hne, rfl⟩ := h
    exact ⟨hne, _, [], by rw [List.append_nil], Or.inl rfl⟩
  | verify found =>
    obtain rfl := Option.some.inj hpart
    obtain ⟨hne, rfl⟩ := h
    exact ⟨hne, _, _, rfl, Or.inr rfl⟩
  | enter text found =>
    obtain rfl := Option.some.inj hpart
    obtain ⟨rest, hsplits, rfl⟩ := h
    refine ⟨hsplits.right_ne, "Type ".toList ++ (text ++ " in ".toList), [], ?_, Or.inl rfl⟩
    rw [hsplits.parts]
    simp only [List.append_assoc, List.append_nil]

/-- The end of a trimmed line is not blank. -/
theorem trim_ne_nil_of_isTrimmed (hline : Text.IsTrimmed (lead ++ part)) (hne : part ≠ []) :
    Text.trim part ≠ [] := by
  intro hblank
  obtain ⟨c, hc⟩ : ∃ c, part.getLast? = some c := ⟨_, List.getLast?_eq_some_getLast hne⟩
  have hlast : (lead ++ part).getLast? = some c := by
    rw [List.getLast?_append, hc, Option.some_or]
  have hvisible := hline c (Or.inr hlast)
  rw [Text.trim_eq_nil_iff.mp hblank c (List.mem_of_getLast? hc)] at hvisible
  cases hvisible

/-- The part behind the last separator holds none, since nothing but blanks could follow it. -/
theorem SplitsLast.not_infix_right (h : SplitsLast " in ".toList text left right)
    (hline : Text.IsTrimmed (lead ++ right)) : ¬ " in ".toList <:+: right := by
  rintro ⟨before, after, rfl⟩
  by_cases hafter : after = []
  · have hlast : (lead ++ (before ++ " in ".toList ++ after)).getLast? = some ' ' := by
      rw [hafter, List.append_nil, List.getLast?_append, List.getLast?_append]
      rfl
    cases hline ' ' (Or.inr hlast)
  · have hparts : text = (left ++ (" in ".toList ++ before)) ++ (" in ".toList ++ after) := by
      rw [h.parts]
      simp only [List.append_assoc]
    have hle := h.last _ after hparts (by simp [h.left_ne]) hafter
    have hlength : " in ".toList.length = 4 := by decide
    simp only [List.length_append, hlength] at hle
    omega

/-- Only blanks to verify leave nothing to refer by, for what else is referred by ends its line. -/
theorem Form.Writes.trim_eq_nil_iff (h : form.Writes line) (hpart : form.reference? = some part)
    (hline : Text.IsTrimmed line) : Text.trim part = [] ↔ VerifiesBlanks line := by
  constructor
  · intro hempty
    obtain ⟨hne, lead, ending, hparts, rfl | rfl⟩ := h.exists_lead hpart
    · rw [hparts, List.append_nil] at hline
      exact absurd hempty (trim_ne_nil_of_isTrimmed hline hne)
    · exact ⟨part, hne, Text.trim_eq_nil_iff.mp hempty, h.2⟩
  · rintro ⟨blanks, hne, hblanks, hverify⟩
    -- the line has no other form, so the blanks are what it refers by
    have hother : Form.Writes (.verify blanks) line := ⟨hne, hverify⟩
    obtain rfl := h.unique hother
    obtain rfl := Option.some.inj hpart
    exact Text.trim_eq_nil_iff.mpr hblanks

/-- The name of an element to type into ends its line, behind the last separator. -/
theorem Form.Writes.not_infix_name (h : Form.Writes (.enter text name) line)
    (hline : Text.IsTrimmed line) : ¬ " in ".toList <:+: Text.trim name := by
  obtain ⟨rest, hsplits, rfl⟩ := h
  rw [hsplits.parts, ← List.append_assoc, ← List.append_assoc] at hline
  intro hinside
  exact hsplits.not_infix_right hline (hinside.trans (Text.trim_infix name))

/-- The step of a trimmed line on its own is tidy. -/
theorem isTidy_of_reads (hreads : Reads line (.ok step)) (hline : Text.IsTrimmed line)
    (hunbroken : '\n' ∉ line) : step.IsTidy line := by
  rcases hreads with ⟨form, hform, hstep⟩ | ⟨-, herror⟩
  swap
  · cases herror
  refine ⟨?trimmed, ?unbroken, ?filled, ?unsplit⟩
  case trimmed =>
    intro name hname
    obtain ⟨part, -, rfl⟩ := Form.exists_reference? hstep.symm hname
    exact Text.isTrimmed_trim part
  case unbroken =>
    intro name hname hmem
    obtain ⟨part, hpart, rfl⟩ := Form.exists_reference? hstep.symm hname
    obtain ⟨-, lead, ending, rfl, -⟩ := hform.exists_lead hpart
    have hpart : '\n' ∈ part := (Text.trim_infix part).subset hmem
    exact hunbroken (List.mem_append_right _ (List.mem_append_left _ hpart))
  case filled =>
    intro name hname
    obtain ⟨part, hpart, rfl⟩ := Form.exists_reference? hstep.symm hname
    exact hform.trim_eq_nil_iff hpart hline
  case unsplit =>
    rintro text name rfl
    cases form with
    | enter before after =>
      obtain ⟨rfl, rfl⟩ := Step.enter.inj (Except.ok.inj hstep)
      exact hform.not_infix_name hline
    | openBrowser | navigate _ | verify _ | tap _ => cases Except.ok.inj hstep
    | wait digits =>
      rw [Form.reading] at hstep
      split at hstep <;> cases hstep

end Step

namespace Script

/-- The lines that are read are trimmed, and hold no line feed. -/
theorem isTrimmed_of_mem_contents {text : Text} {entry : Text × Nat}
    (h : entry ∈ contents text) : Text.IsTrimmed entry.1 ∧ '\n' ∉ entry.1 := by
  have hentry := List.fst_mem_of_mem_zipIdx (List.mem_of_mem_filter h)
  obtain ⟨line, hline, htrim⟩ := List.mem_map.mp hentry
  rw [← htrim]
  exact ⟨Text.isTrimmed_trim line,
    fun hmem => Text.lineFeed_not_mem_lines hline ((Text.trim_infix line).subset hmem)⟩

/-- Each step of a script is that of a line, and the texts by which it refers to something are
trimmed and on one line. They are not empty, but for the name in a line that verifies blanks. The
name of an element to type into holds no `" in "`. -/
theorem references_are_filled_unless_blank_is_verified {text : Text} {steps : List Placed}
    (h : parse text = .ok steps) :
    ∀ placed ∈ steps, ∃ line, (line, placed.line) ∈ contents text
      ∧ Step.Reads line (.ok placed.step) ∧ placed.step.IsTidy line := by
  intro placed hplaced
  have hread := parse_eq_ok_iff.mp h
  obtain ⟨index, hindex, rfl⟩ := List.mem_iff_getElem.mp hplaced
  have hentry : index < (contents text).length := hread.length_eq ▸ hindex
  obtain ⟨hnumber, hreads⟩ : Places (contents text)[index] steps[index] := hread.get hentry hindex
  have hmem : (contents text)[index] ∈ contents text := List.getElem_mem hentry
  obtain ⟨htrimmed, hunbroken⟩ := isTrimmed_of_mem_contents hmem
  refine ⟨(contents text)[index].1, ?_, hreads, Step.isTidy_of_reads hreads htrimmed hunbroken⟩
  rw [hnumber]
  exact hmem

/-- A script that verifies a tab, and types a text that the separator stands in. -/
theorem references_of_blank_and_of_field :
    let script := "Verify \t is visible\n\n  Type log in now in  Search Field ".toList
    parse script = .ok [⟨1, .verify []⟩, ⟨3, .enter "log in now".toList "Search Field".toList⟩]
      ∧ Step.VerifiesBlanks "Verify \t is visible".toList
      ∧ Text.IsTrimmed "Search Field".toList ∧ ¬ " in ".toList <:+: "Search Field".toList := by
  intro script
  have hparse : parse script
      = .ok [⟨1, .verify []⟩, ⟨3, .enter "log in now".toList "Search Field".toList⟩] := by
    decide +kernel
  have hcontents : contents script = [("Verify \t is visible".toList, 1),
      ("Type log in now in  Search Field".toList, 3)] := by
    decide +kernel
  have htidy := references_are_filled_unless_blank_is_verified hparse
  obtain ⟨line, hline, -, hverify⟩ := htidy ⟨1, .verify []⟩ (by simp)
  obtain ⟨_, -, -, henter⟩ := htidy ⟨3, .enter "log in now".toList "Search Field".toList⟩ (by simp)
  refine ⟨hparse, ?_, henter.trimmed _ (Or.inl rfl), henter.unsplit _ _ rfl⟩
  obtain rfl : line = "Verify \t is visible".toList := by simpa [hcontents] using hline
  exact (hverify.filled [] (Or.inl rfl)).mp rfl

/-- Three spaces are enough for a name, and nothing is left of it. -/
theorem verify_of_blanks_names_nothing :
    ∃ steps, parse "Verify   is visible".toList = .ok steps
      ∧ ∃ placed ∈ steps, placed.step.elementName? = some [] :=
  ⟨[⟨1, .verify []⟩], by decide +kernel, ⟨1, .verify []⟩, List.mem_singleton_self _, rfl⟩

end Script
end StepRecorder
