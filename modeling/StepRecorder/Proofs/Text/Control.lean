import StepRecorder.Text.Control

/-!
Escaped texts hold no control characters, and an escape is never empty. A text without control
characters is not changed.

Main statements: `isControl_of_mem_escapeControls`, `escapeControls_eq_self`.
-/

namespace StepRecorder.Text

/-- The digits of a number in a base of at most sixteen. -/
theorem exists_digitChar_of_mem_toDigits {base n : Nat} (hbase : 1 < base) {c : Char}
    (h : c ∈ Nat.toDigits base n) : ∃ digit < base, c = Nat.digitChar digit := by
  induction n using Nat.strongRecOn with
  | _ n ih =>
    rw [Nat.toDigits_eq_if hbase] at h
    split at h
    next hlow => exact ⟨n, hlow, List.mem_singleton.mp h⟩
    next hhigh =>
      rcases List.mem_append.mp h with hmore | hlast
      · exact ih (n / base) (Nat.div_lt_self (by omega) hbase) hmore
      · exact ⟨n % base, Nat.mod_lt n (by omega), List.mem_singleton.mp hlast⟩

theorem isControl_digitChar {digit : Nat} (h : digit < 16) :
    isControl (Nat.digitChar digit) = false := by
  revert digit
  decide

theorem isControl_of_mem_braced {c d : Char} (h : d ∈ braced c) : isControl d = false := by
  simp only [braced, List.mem_append, List.mem_cons, List.not_mem_nil, or_false] at h
  rcases h with ((rfl | rfl | rfl) | hdigit) | rfl
  · decide
  · decide
  · decide
  · obtain ⟨digit, hlt, rfl⟩ := exists_digitChar_of_mem_toDigits (by decide) hdigit
    exact isControl_digitChar hlt
  · decide

theorem isControl_of_mem_short {name d : Char} (hname : isControl name = false)
    (h : d ∈ ['\\', name]) : isControl d = false := by
  simp only [List.mem_cons, List.not_mem_nil, or_false] at h
  rcases h with rfl | rfl
  · decide
  · exact hname

theorem isControl_of_mem_escapeControl {c d : Char} (h : d ∈ escapeControl c) :
    isControl d = false := by
  unfold escapeControl at h
  split at h
  · exact isControl_of_mem_short (by decide) h
  split at h
  · exact isControl_of_mem_short (by decide) h
  split at h
  · exact isControl_of_mem_short (by decide) h
  split at h
  · exact isControl_of_mem_braced h
  next hplain =>
    rw [List.mem_singleton.mp h]
    exact Bool.eq_false_iff.mpr hplain

/-- An escaped text holds no control character. -/
theorem isControl_of_mem_escapeControls {text : Text} {c : Char} (h : c ∈ escapeControls text) :
    isControl c = false := by
  obtain ⟨d, -, hd⟩ := List.mem_flatMap.mp h
  exact isControl_of_mem_escapeControl hd

theorem escapeControl_of_not_isControl {c : Char} (h : isControl c = false) :
    escapeControl c = [c] := by
  have hne : ∀ control, isControl control = true → c ≠ control := by
    rintro control hcontrol rfl
    rw [h] at hcontrol
    cases hcontrol
  rw [escapeControl, if_neg (hne '\n' (by decide)), if_neg (hne '\r' (by decide)),
    if_neg (hne '\t' (by decide)), h]
  rfl

/-- A text without control characters is its own escaped form. -/
theorem escapeControls_eq_self {text : Text} (h : ∀ c ∈ text, isControl c = false) :
    escapeControls text = text := by
  induction text with
  | nil => rfl
  | cons c text ih =>
    obtain ⟨hc, htext⟩ := List.forall_mem_cons.mp h
    rw [escapeControls, List.flatMap_cons, escapeControl_of_not_isControl hc]
    exact congrArg (c :: ·) (ih htext)

theorem escapeControl_ne_nil (c : Char) : escapeControl c ≠ [] := by
  unfold escapeControl
  repeat' split
  all_goals simp [braced]

theorem escapeControls_ne_nil {text : Text} (h : text ≠ []) : escapeControls text ≠ [] := by
  obtain ⟨c, rest, rfl⟩ := List.exists_cons_of_ne_nil h
  intro hempty
  exact escapeControl_ne_nil c (List.append_eq_nil_iff.mp hempty).1

end StepRecorder.Text
