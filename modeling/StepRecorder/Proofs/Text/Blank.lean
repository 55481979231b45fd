import Mathlib.Data.List.TakeWhile
import StepRecorder.Text.Blank

/-!
Trimming. A text whose first and last characters are no blanks is not changed by it.

Main statements: `trim_eq_self`, `trim_eq_nil_iff` for blanks alone, and `trim_trim`, nothing is
left to trim.
-/

namespace StepRecorder.Text

/-- Whether a text holds no blank. -/
def IsSolid (text : Text) : Prop := ∀ c ∈ text, isBlank c = false

theorem isSolid_of_any {text : Text} (h : text.any isBlank = false) : IsSolid text := by
  intro c hc
  exact Bool.eq_false_iff.mpr (List.any_eq_false.mp h c hc)

theorem dropWhile_eq_self_of_head? {text : Text}
    (h : ∀ c, text.head? = some c → isBlank c = false) : text.dropWhile isBlank = text := by
  cases text with
  | nil => rfl
  | cons c text => rw [List.dropWhile_cons_of_neg (by simp [h c rfl])]

/-- A text that neither starts nor ends with a blank. -/
theorem trim_eq_self {text : Text} (hhead : ∀ c, text.head? = some c → isBlank c = false)
    (hlast : ∀ c, text.getLast? = some c → isBlank c = false) : trim text = text := by
  have hstart : trimStart text = text := dropWhile_eq_self_of_head? hhead
  have hend : text.reverse.dropWhile isBlank = text.reverse :=
    dropWhile_eq_self_of_head? (by simpa using hlast)
  rw [trim, hstart, trimEnd, hend, List.reverse_reverse]

/-- Whether a text has no blanks on its outside. -/
def IsTrimmed (text : Text) : Prop :=
  ∀ c, text.head? = some c ∨ text.getLast? = some c → isBlank c = false

theorem IsTrimmed.trim_eq {text : Text} (h : IsTrimmed text) : trim text = text :=
  trim_eq_self (fun c hc => h c (Or.inl hc)) (fun c hc => h c (Or.inr hc))

theorem IsSolid.trim_eq {text : Text} (h : IsSolid text) : trim text = text :=
  trim_eq_self (fun c hc => h c (List.mem_of_mem_head? hc))
    (fun c hc => h c (List.mem_of_getLast? hc))

theorem IsSolid.squeeze_eq {text : Text} (h : IsSolid text) : squeeze text = text :=
  List.filter_eq_self.mpr fun c hc => by simp [h c hc]

theorem IsSolid.not_mem {text : Text} (h : IsSolid text) {c : Char} (hc : isBlank c = true) :
    c ∉ text := fun hmem => by simp [h c hmem] at hc

theorem not_isBlank_of_head?_dropWhile {text : Text} {c : Char}
    (h : (text.dropWhile isBlank).head? = some c) : isBlank c = false := by
  have hhead := List.head?_dropWhile_not isBlank text
  rwa [h] at hhead

theorem trimEnd_isPrefix (text : Text) : trimEnd text <+: text := by
  have hsuffix := List.dropWhile_suffix (l := text.reverse) isBlank
  rwa [← List.reverse_prefix, List.reverse_reverse] at hsuffix

/-- A text without its last blanks begins as before, if anything is left. -/
theorem head?_trimEnd {text : Text} {c : Char} (h : (trimEnd text).head? = some c) :
    text.head? = some c := by
  obtain ⟨rest, hrest⟩ := trimEnd_isPrefix text
  cases htrim : trimEnd text with
  | nil =>
    rw [htrim] at h
    cases h
  | cons first more =>
    rw [htrim] at h hrest
    rw [← hrest]
    exact h

theorem isTrimmed_trim (text : Text) : IsTrimmed (trim text) := by
  rintro c (hhead | hlast)
  · exact not_isBlank_of_head?_dropWhile (head?_trimEnd hhead)
  · rw [trim, trimEnd, List.getLast?_reverse] at hlast
    exact not_isBlank_of_head?_dropWhile hlast

/-- Trimming takes from the outside only. -/
theorem trim_infix (text : Text) : trim text <:+: text := by
  have hstart : trimStart text <:+ text := List.dropWhile_suffix isBlank
  exact (trimEnd_isPrefix (trimStart text)).isInfix.trans hstart.isInfix

/-- Nothing is left of blanks alone. -/
theorem trim_eq_nil_iff {text : Text} : trim text = [] ↔ ∀ c ∈ text, isBlank c = true := by
  have hend (text : Text) : trimEnd text = [] ↔ ∀ c ∈ text, isBlank c = true := by
    rw [trimEnd, List.reverse_eq_nil_iff, List.dropWhile_eq_nil_iff]
    simp only [List.mem_reverse]
  rw [trim, hend, trimStart]
  constructor
  · intro h c hc
    rw [← List.takeWhile_append_dropWhile (p := isBlank) (l := text)] at hc
    rcases List.mem_append.mp hc with hblank | hrest
    · exact List.mem_takeWhile_imp hblank
    · exact h c hrest
  · intro h c hc
    exact h c ((List.dropWhile_suffix isBlank).subset hc)

/-- Trimming twice is trimming once. -/
theorem trim_trim (text : Text) : trim (trim text) = trim text := (isTrimmed_trim text).trim_eq

end StepRecorder.Text
