import StepRecorder.Proofs.Registry.Candidate
import StepRecorder.Proofs.Text.Blank

/-!
Names are never empty and hold no blank, whatever the oracle replies and whichever candidate a
collision leads to.

    reply, attribute      accepted only if it is proper
    DynamicElement_n      letters and digits
    Name_n                the beginning of a proper name, and digits

Main statements: `isProper_choose`, `StoredAs.isProper`.
-/

namespace StepRecorder

namespace Text

theorem isBlank_of_isDigit {c : Char} (h : c.isDigit = true) : isBlank c = false := by
  simp only [Char.isDigit, Bool.and_eq_true, decide_eq_true_eq] at h
  have hlow : 48 ≤ c.toNat := h.1
  have hhigh : c.toNat ≤ 57 := h.2
  simp only [isBlank, Bool.or_eq_false_iff, Bool.and_eq_false_iff, decide_eq_false_iff_not]
  omega

theorem isSolid_decimal (n : Nat) : IsSolid (decimal n) := fun _ hc =>
  isBlank_of_isDigit (Nat.isDigit_of_mem_toDigits (by decide) (by decide) hc)

theorem IsSolid.append {text more : Text} (h : IsSolid text) (h' : IsSolid more) :
    IsSolid (text ++ more) := by
  intro c hc
  rcases List.mem_append.mp hc with hc | hc
  · exact h c hc
  · exact h' c hc

end Text

namespace Naming

/-- A name that can stand in a script: not empty, and without blanks. -/
structure IsProper (name : Text) : Prop where
  ne_nil : name ≠ []
  solid : Text.IsSolid name

theorem isProper_of_isAcceptable {name : Text} (h : isAcceptable name = true) : IsProper name := by
  simp only [isAcceptable, Bool.and_eq_true, Bool.not_eq_true', List.isEmpty_eq_false_iff,
    List.any_eq_false, Bool.not_eq_true] at h
  exact ⟨h.1.1, h.2⟩

theorem isProper_numbered (n : Nat) : IsProper (numbered n) := by
  have hnumbered : numbered n = "DynamicElement_".toList ++ Text.decimal n := rfl
  have hlead : Text.IsSolid "DynamicElement_".toList := Text.isSolid_of_any (by decide +kernel)
  rw [hnumbered]
  exact ⟨by simp, hlead.append (Text.isSolid_decimal n)⟩

/-- A name is chosen because it is acceptable, or it is made by counting. -/
theorem choose_cases (answer : OracleAnswer) (locator : Text) (count : Nat) :
    (isAcceptable (choose answer locator count).1.name = true
        ∧ (choose answer locator count).1.source ≠ .synthesized)
      ∨ (choose answer locator count).1 = ⟨numbered (count + 1), .synthesized⟩ := by
  have hfallback : (isAcceptable (fallback locator count).name = true
        ∧ (fallback locator count).source ≠ .synthesized)
      ∨ fallback locator count = ⟨numbered (count + 1), .synthesized⟩ := by
    unfold fallback
    split
    · split
      next hacceptable => exact Or.inl ⟨hacceptable, nofun⟩
      · exact Or.inr rfl
    · exact Or.inr rfl
  unfold choose
  split
  · dsimp only
    split
    next hacceptable => exact Or.inl ⟨hacceptable, nofun⟩
    · exact hfallback
  · exact hfallback
  · exact hfallback

/-- No reply of the oracle leads to an improper name. -/
theorem isProper_choose (answer : OracleAnswer) (locator : Text) (count : Nat) :
    IsProper (choose answer locator count).1.name := by
  rcases choose_cases answer locator count with ⟨hacceptable, -⟩ | hcounted
  · exact isProper_of_isAcceptable hacceptable
  · rw [hcounted]
    exact isProper_numbered _

end Naming

namespace Registry

open Naming

theorem isProper_candidate {base : Text} (h : IsProper base) (n : Nat) :
    IsProper (candidate base n) := by
  have hending : Text.IsSolid ('_' :: Text.decimal n) := by
    intro c hc
    rcases List.mem_cons.mp hc with rfl | hc
    · decide
    · exact Text.isSolid_decimal n c hc
  refine ⟨by simp [candidate], Text.IsSolid.append ?_ hending⟩
  exact fun c hc => h.solid c (List.mem_of_mem_take hc)

/-- A locator for which a proper name is asked is stored under a proper name. -/
theorem StoredAs.isProper {registry : Registry} {name expression stored : Text}
    (h : StoredAs registry name expression stored) (hname : IsProper name) : IsProper stored := by
  cases h with
  | asked usable => exact hname
  | numbered n policy taken low high usable passed => exact isProper_candidate hname n

end Registry
end StepRecorder
