import Mathlib.Algebra.Group.Nat.Defs
import StepRecorder.Proofs.Naming
import StepRecorder.Proofs.Registry.Candidate

/-!
Names that are made here stay below the limit, as long as their numbers do not have too many digits:

    DynamicElement_n         15 + digits of n              n < 10 ^ 24
    Name_n                   at most 39, by cutting Name   n < 10 ^ 38

Both bounds are exact. Numbers count entries, so they stay far below.

Main statements: `isAcceptable_choose`, `StoredAs.isAcceptable`.
-/

namespace StepRecorder

theorem Text.length_decimal_le {n : Nat} (digits : Nat) (hdigits : 0 < digits)
    (h : n < 10 ^ digits) : (decimal n).length ≤ digits :=
  (Nat.length_toDigits_le_iff (by decide) hdigits).mpr h

namespace Naming

theorem isAcceptable_iff {name : Text} :
    isAcceptable name = true ↔ IsProper name ∧ name.length < nameLimit := by
  constructor
  · intro h
    refine ⟨isProper_of_isAcceptable h, ?_⟩
    simp only [isAcceptable, Bool.and_eq_true, decide_eq_true_eq] at h
    exact h.1.2
  · rintro ⟨⟨hne, hsolid⟩, hlength⟩
    have hblank : name.any Text.isBlank = false := by
      rw [List.any_eq_false]
      intro c hc
      rw [hsolid c hc]
      exact Bool.false_ne_true
    simp [isAcceptable, hne, hlength, hblank]

theorem isAcceptable_numbered {n : Nat} (h : n < 10 ^ 24) : isAcceptable (numbered n) = true := by
  have hdigits := Text.length_decimal_le 24 (by decide) h
  have hlead : ("DynamicElement_".toList).length = 15 := by decide +kernel
  refine isAcceptable_iff.mpr ⟨isProper_numbered n, ?_⟩
  -- spelled out, as a search for rewrites would try to evaluate the digits
  calc (numbered n).length
      = 15 + (Text.decimal n).length := List.length_append.trans (congrArg (· + _) hlead)
    _ ≤ 15 + 24 := Nat.add_le_add_left hdigits 15
    _ < nameLimit := by decide

/-- No reply of the oracle leads to a name that is not acceptable. -/
theorem isAcceptable_choose (answer : OracleAnswer) (locator : Text) {count : Nat}
    (h : count + 1 < 10 ^ 24) : isAcceptable (choose answer locator count).1.name = true := by
  rcases choose_cases answer locator count with ⟨hacceptable, -⟩ | hcounted
  · exact hacceptable
  · rw [hcounted]
    exact isAcceptable_numbered h

end Naming

namespace Registry

open Naming

/-- A candidate is short enough, however long its base is. -/
theorem length_candidate_lt (base : Text) {n : Nat} (h : n < 10 ^ 38) :
    (candidate base n).length < nameLimit := by
  have hdigits := Text.length_decimal_le 38 (by decide) h
  simp only [candidate, nameLimit, List.length_append, List.length_take, List.length_cons]
  omega

/-- A locator for which an acceptable name is asked is stored under an acceptable name. -/
theorem StoredAs.isAcceptable {registry : Registry} {name expression stored : Text}
    (h : StoredAs registry name expression stored) (hsize : registry.size + 2 < 10 ^ 38)
    (hname : isAcceptable name = true) : isAcceptable stored = true := by
  cases h with
  | asked usable => exact hname
  | numbered n policy taken low high usable passed =>
    have hproper := isProper_candidate (isProper_of_isAcceptable hname) n
    exact isAcceptable_iff.mpr
      ⟨hproper, length_candidate_lt name (Nat.lt_of_le_of_lt high hsize)⟩

end Registry
end StepRecorder
