import StepRecorder.Text.Basic

/-!
Searching. A search passes over the places that the recognizer refuses and ends at the first one
that it accepts:

    place        c0     c1     ...    cn
    recognize    none   none   none   some found

Main statements: `firstMatch_append`, `firstMatch_of_eq_some`, `firstMatch_eq_some_iff`,
`occursIn_iff`.
-/

namespace StepRecorder.Text

section Match

variable {α : Type} {recognize : Text → Option α}

theorem firstMatch_of_eq_some {text : Text} {found : α} (h : recognize text = some found) :
    firstMatch recognize text = some found := by
  cases text with
  | nil => exact h
  | cons c text => rw [firstMatch, h]

/-- A beginning whose characters start no match is passed over. -/
theorem firstMatch_append {lead : Text} (h : ∀ c ∈ lead, ∀ rest, recognize (c :: rest) = none)
    (rest : Text) : firstMatch recognize (lead ++ rest) = firstMatch recognize rest := by
  induction lead with
  | nil => rfl
  | cons c lead ih =>
    rw [List.cons_append, firstMatch, h c List.mem_cons_self]
    exact ih fun d hd => h d (List.mem_cons_of_mem c hd)

/-- What is found, is found at the first place where the recognizer succeeds. -/
theorem firstMatch_eq_some_iff {text : Text} {found : α} :
    firstMatch recognize text = some found
      ↔ ∃ before place, text = before ++ place ∧ recognize place = some found
        ∧ ∀ other rest, text = other ++ rest → other.length < before.length →
            recognize rest = none := by
  induction text with
  | nil =>
    constructor
    · intro h
      exact ⟨[], [], rfl, h, fun _ _ _ hlength => absurd hlength (Nat.not_lt_zero _)⟩
    · rintro ⟨before, place, hparts, hplace, -⟩
      obtain ⟨rfl, rfl⟩ := List.append_eq_nil_iff.mp hparts.symm
      exact hplace
  | cons c text ih =>
    rw [firstMatch]
    cases hfirst : recognize (c :: text) with
    | some first =>
      constructor
      · rintro ⟨⟩
        exact ⟨[], c :: text, rfl, hfirst, fun _ _ _ hlength => absurd hlength (Nat.not_lt_zero _)⟩
      · rintro ⟨before, place, hparts, hplace, hearlier⟩
        cases before with
        | nil =>
          obtain rfl : c :: text = place := hparts
          exact hfirst.symm.trans hplace
        | cons d before =>
          cases hfirst.symm.trans (hearlier [] (c :: text) rfl (Nat.succ_pos _))
    | none =>
      refine ih.trans ⟨?_, ?_⟩
      · rintro ⟨before, place, rfl, hplace, hearlier⟩
        refine ⟨c :: before, place, rfl, hplace, ?_⟩
        intro other rest hparts hlength
        cases other with
        | nil =>
          obtain rfl : c :: (before ++ place) = rest := hparts
          exact hfirst
        | cons d other =>
          exact hearlier other rest (List.cons.inj hparts).2 (Nat.lt_of_succ_lt_succ hlength)
      · rintro ⟨before, place, hparts, hplace, hearlier⟩
        cases before with
        | nil =>
          obtain rfl : c :: text = place := hparts
          cases hfirst.symm.trans hplace
        | cons d before =>
          refine ⟨before, place, (List.cons.inj hparts).2, hplace, ?_⟩
          intro other rest hrest hlength
          exact hearlier (c :: other) rest (congrArg (c :: ·) hrest) (Nat.succ_lt_succ hlength)

end Match

theorem after?_eq_some_iff {lead text rest : Text} :
    after? lead text = some rest ↔ text = lead ++ rest := by
  constructor
  · exact eq_append_of_after?
  · rintro rfl
    exact after?_append lead rest

theorem isSome_after?_iff {part text : Text} :
    (after? part text).isSome = true ↔ part <+: text := by
  constructor
  · intro h
    obtain ⟨rest, hrest⟩ := Option.isSome_iff_exists.mp h
    exact ⟨rest, (eq_append_of_after? hrest).symm⟩
  · rintro ⟨rest, rfl⟩
    rw [after?_append]
    rfl

/-- A part that does not hold a character lies on one side of it. -/
theorem infix_of_infix_append_cons {part before after : Text} {c : Char} (hc : c ∉ part)
    (h : part <:+: before ++ c :: after) : part <:+: before ∨ part <:+: after := by
  have hbegins (first : Text) (h : part <+: first ++ c :: after) : part <+: first := by
    have hmarked : first ++ [c] <+: first ++ c :: after := ⟨after, by simp⟩
    rcases List.prefix_or_prefix_of_prefix h hmarked with hshort | hlong
    · rcases List.prefix_concat_iff.mp hshort with rfl | hprefix
      · simp at hc
      · exact hprefix
    · exact absurd (hlong.subset (by simp)) hc
  induction before with
  | nil =>
    rcases List.infix_cons_iff.mp h with hprefix | hinfix
    · exact Or.inl (hbegins [] hprefix).isInfix
    · exact Or.inr hinfix
  | cons b before ih =>
    rcases List.infix_cons_iff.mp h with hprefix | hinfix
    · exact Or.inl (hbegins (b :: before) hprefix).isInfix
    · exact (ih hinfix).imp_left fun hinside => hinside.trans (List.suffix_cons b before).isInfix

theorem occursIn_iff {part text : Text} : occursIn part text = true ↔ part <:+: text := by
  induction text with
  | nil => rw [occursIn, isSome_after?_iff, List.prefix_nil, List.infix_nil]
  | cons c text ih =>
    rw [occursIn, Bool.or_eq_true, isSome_after?_iff, ih, List.infix_cons_iff]

end StepRecorder.Text
