import Mathlib.Order.Bounds.Defs
import StepRecorder.Proofs.Correlation.Acceptable

/-!
The search for a free name ends. It tries one number after the other and would go on for ever, if
it were not that no two of its candidates are the same name: the entries can stand in the way of as
many candidates as there are entries, and no more.

    base         x_2              where x has 37 characters
    entries      x_2  x_3
    candidates   x_2  x_3  x_4    4 = 2 entries + 2

A base that is cut may be in the way of itself, as it is here, so the bound is exact.

Main statement: `search_ends_with_least_suffix`.
-/

namespace StepRecorder.Registry

variable {locators : List (Text × Text)} {base expression : Text}

/-- A number from 2 on whose candidate is no key, or a key of the same expression. -/
def IsFree (locators : List (Text × Text)) (base expression : Text) (n : Nat) : Prop :=
  2 ≤ n ∧ (candidate base n ∉ Ordered.keys locators
    ∨ locators.lookup (candidate base n) = some expression)

theorem isFree_iff {n : Nat} : IsFree locators base expression n
    ↔ 2 ≤ n ∧ isUsable locators expression (candidate base n) = true := by
  unfold IsFree isUsable
  cases hlookup : locators.lookup (candidate base n) with
  | none => simp [Ordered.not_mem_keys_of_lookup hlookup]
  | some held => simp [Ordered.mem_keys_of_lookup hlookup]

/-- A search for a name in place of `base` that ends with the `n`-th candidate. -/
structure EndsAt (locators : List (Text × Text)) (base expression : Text) (n : Nat) : Prop where
  found : nextFree locators base expression = candidate base n
  least : IsLeast {k | IsFree locators base expression k} n
  bounded : n ≤ locators.length + 2
  /-- It ends there whatever the number of tries, once there are more of them than entries. -/
  ends : ∀ tries, locators.length < tries →
    firstUsable? locators expression base tries 2 = some (candidate base n)
  short : (candidate base n).length < 40

/-- The search for a free name ends with the least number that can be used, for any base. Its
candidates are cut to 39 characters, and no two of them are the same. -/
theorem search_ends_with_least_suffix (base expression : Text)
    (hsize : locators.length < Correlation.entryLimit) :
    (∃ n, EndsAt locators base expression n)
      ∧ Function.Injective (candidate base)
      ∧ ∀ n, candidate base n
          = base.take (39 - ('_' :: Text.decimal n).length) ++ '_' :: Text.decimal n := by
  obtain ⟨n, hlow, hhigh, hname, husable, hpassed⟩ := exists_nextFree_eq locators base expression
  refine ⟨⟨n, hname, ⟨isFree_iff.mpr ⟨hlow, husable⟩, ?least⟩, hhigh, ?ends, ?short⟩,
    candidate_injective base, ?shape⟩
  case least =>
    intro k hk
    obtain ⟨hk, hfree⟩ := isFree_iff.mp hk
    by_contra hless
    rw [hpassed k hk (Nat.lt_of_not_le hless)] at hfree
    cases hfree
  case ends =>
    intro tries htries
    exact firstUsable?_eq_candidate hlow (by omega) husable hpassed
  case short =>
    have hdigits : locators.length + 2 < 10 ^ 38 :=
      Nat.lt_trans (Nat.add_lt_add_right hsize 2) (by decide)
    exact length_candidate_lt base (Nat.lt_of_le_of_lt hhigh hdigits)
  case shape =>
    intro n
    have hkeep : ∀ length, 40 - (length + 1) = 39 - length := by omega
    rw [candidate, Naming.nameLimit, hkeep]

/-- A base of 39 characters that is its own second candidate. -/
theorem search_ends_behind_own_base :
    let base : Text := List.replicate 37 'x' ++ ['_', '2']
    let locators := [(base, expressionOf "//a".toList)]
    locators.length < Correlation.entryLimit
      ∧ locators.lookup base = some (expressionOf "//a".toList)
      ∧ (∃ n, EndsAt locators base (expressionOf "//b".toList) n)
      ∧ nextFree locators base (expressionOf "//b".toList)
          = List.replicate 37 'x' ++ ['_', '3'] := by
  intro base locators
  have hsize : locators.length < Correlation.entryLimit := by decide
  refine ⟨hsize, by decide +kernel, ?_, by decide +kernel⟩
  exact (search_ends_with_least_suffix base (expressionOf "//b".toList) hsize).1

end StepRecorder.Registry
