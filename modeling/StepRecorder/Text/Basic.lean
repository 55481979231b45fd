/-!
Texts as lists of characters, and the three searches that the rest of the library is built from:
what follows a given beginning, whether a text occurs inside another, and the first place (from the
left) at which a recognizer succeeds.

Main statements: `after?_append` and `eq_append_of_after?` say that `after?` removes exactly the
given beginning, `after?_append_of_differ` that it finds no other one; `firstMatch_eq_none_iff` says
that a search fails only if the recognizer fails at every place.
-/

namespace StepRecorder

/-- A text is the list of its Unicode scalar values. -/
abbrev Text := List Char

namespace Text

/-- What follows `lead` in a text that starts with it. -/
def after? : Text → Text → Option Text
  | [], text => some text
  | _ :: _, [] => none
  | l :: lead, c :: text => if l = c then after? lead text else none

@[simp] theorem after?_append (lead rest : Text) : after? lead (lead ++ rest) = some rest := by
  induction lead with
  | nil => rfl
  | cons l lead ih => simp [after?, ih]

theorem eq_append_of_after? {lead text rest : Text} (h : after? lead text = some rest) :
    text = lead ++ rest := by
  induction lead generalizing text with
  | nil => simpa [after?] using h
  | cons l lead ih =>
    cases text with
    | nil => simp [after?] at h
    | cons c text =>
      by_cases hc : l = c
      · subst hc
        simp [after?] at h
        simp [ih h]
      · simp [after?, hc] at h

/-- A text does not begin with another one if the two differ somewhere. -/
theorem after?_append_of_differ {lead text : Text}
    (h : (lead.zip text).any (fun pair => pair.1 != pair.2) = true) (rest : Text) :
    after? lead (text ++ rest) = none := by
  induction lead generalizing text with
  | nil => simp at h
  | cons l lead ih =>
    cases text with
    | nil => simp at h
    | cons c text =>
      by_cases hc : l = c
      · subst hc
        simp only [List.zip_cons_cons, List.any_cons, bne_self_eq_false, Bool.false_or] at h
        simpa [after?] using ih h
      · simp [after?, hc]

/-- The result of a recognizer at the leftmost place of a text where it succeeds. -/
def firstMatch {α : Type} (recognize : Text → Option α) : Text → Option α
  | [] => recognize []
  | c :: rest =>
    match recognize (c :: rest) with
    | some found => some found
    | none => firstMatch recognize rest

theorem firstMatch_eq_none_iff {α : Type} {recognize : Text → Option α} {text : Text} :
    firstMatch recognize text = none ↔ ∀ rest, rest <:+ text → recognize rest = none := by
  induction text with
  | nil => simp [firstMatch]
  | cons c text ih =>
    simp only [firstMatch, List.suffix_cons_iff]
    cases h : recognize (c :: text) with
    | some found =>
      simp only [reduceCtorEq, false_iff]
      intro hall
      have := hall _ (Or.inl rfl)
      simp [h] at this
    | none =>
      simp only [ih]
      constructor
      · intro hall rest hrest
        rcases hrest with rfl | hrest
        · exact h
        · exact hall rest hrest
      · intro hall rest hrest
        exact hall rest (Or.inr hrest)

/-- Whether `part` occurs somewhere in a text. -/
def occursIn (part : Text) : Text → Bool
  | [] => (after? part []).isSome
  | c :: rest => (after? part (c :: rest)).isSome || occursIn part rest

/-- The texts with `separator` between each two of them. -/
def join (separator : Text) (texts : List Text) : Text := separator.intercalate texts

end Text
end StepRecorder
