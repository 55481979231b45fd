import Mathlib.Data.List.Nodup
import Mathlib.Data.Nat.Find
import StepRecorder.Proofs.Correlation.Step
import StepRecorder.Proofs.Ordered

/-!
The names that are tried in place of one that is taken. Cutting may make the beginnings of two
candidates equal, but never their numbers, so among more candidates than there are entries one is
no key yet. The search ends with the first candidate that can be used.

    Login ─▶ Login_2 ─▶ Login_3 ─▶ ... ─▶ Login_n        n ≤ entries + 2
    taken    taken      taken            usable

`StoredAs` lists how a locator comes by its name; later proofs go by cases on it and never open the
search.

Main statements: `candidate_injective`, `exists_nextFree_eq`, `storedAs_storedName`.
-/

namespace StepRecorder

namespace Text

theorem decimal_injective : Function.Injective decimal := by
  intro m n h
  have hvalue := congrArg (fun digits => Nat.ofDigitChars 10 digits 0) h
  simpa only [decimal, Nat.ofDigitChars_ten_toDigits] using hvalue

/-- What stands behind the last occurrence of a character. -/
theorem eq_of_append_cons_eq {c : Char} {before before' after after' : Text} (h : c ∉ after)
    (h' : c ∉ after') (heq : before ++ c :: after = before' ++ c :: after') : after = after' := by
  rcases List.append_eq_append_iff.mp heq with ⟨more, -, hmore⟩ | ⟨more, -, hmore⟩
  · cases more with
    | nil => exact (List.cons.inj hmore).2
    | cons first more =>
      obtain ⟨-, rfl⟩ := List.cons.inj hmore
      simp at h
  · cases more with
    | nil => exact (List.cons.inj hmore).2.symm
    | cons first more =>
      obtain ⟨-, rfl⟩ := List.cons.inj hmore
      simp at h'

end Text

namespace Registry

variable {locators : List (Text × Text)} {expression base name : Text}

theorem isUsable_iff : isUsable locators expression name = true
    ↔ ∀ held, locators.lookup name = some held → held = expression := by
  unfold isUsable
  cases locators.lookup name <;> simp

/-- A name that cannot be used is taken. -/
theorem mem_keys_of_not_isUsable (h : isUsable locators expression name = false) :
    name ∈ Ordered.keys locators := by
  unfold isUsable at h
  cases hlookup : locators.lookup name with
  | none => simp [hlookup] at h
  | some held => exact Ordered.mem_keys_of_lookup hlookup

/-- Candidates with different numbers are different, wherever the base is cut. -/
theorem candidate_injective (base : Text) : Function.Injective (candidate base) := by
  intro m n h
  exact Text.decimal_injective (Text.eq_of_append_cons_eq Nat.underscore_not_in_toDigits
    Nat.underscore_not_in_toDigits h)

/-- Of more candidates than there are entries, one can be used. -/
theorem exists_isUsable_candidate (locators : List (Text × Text)) (expression base : Text)
    (n : Nat) :
    ∃ k, n ≤ k ∧ k < n + (locators.length + 1)
      ∧ isUsable locators expression (candidate base k) = true := by
  by_contra hnone
  have htaken : ∀ k, n ≤ k → k < n + (locators.length + 1) →
      candidate base k ∈ Ordered.keys locators := by
    intro k hn hk
    have hunusable : isUsable locators expression (candidate base k) = false :=
      Bool.eq_false_iff.mpr fun husable => hnone ⟨k, hn, hk, husable⟩
    exact mem_keys_of_not_isUsable hunusable
  have hsubset : (List.range' n (locators.length + 1)).map (candidate base)
      ⊆ Ordered.keys locators := by
    intro name hname
    obtain ⟨k, hk, rfl⟩ := List.mem_map.mp hname
    rw [List.mem_range'_1] at hk
    exact htaken k hk.1 hk.2
  have hdistinct : ((List.range' n (locators.length + 1)).map (candidate base)).Nodup :=
    List.Nodup.map (candidate_injective base) List.nodup_range'
  have hlength := hdistinct.length_le_of_subset hsubset
  simp only [List.length_map, List.length_range', Ordered.keys] at hlength
  omega

/-- A search that gets as far as a candidate that can be used, and passes over those before it, ends
there. -/
theorem firstUsable?_eq_candidate {tries n k : Nat} (hn : n ≤ k) (hk : k < n + tries)
    (husable : isUsable locators expression (candidate base k) = true)
    (hpassed : ∀ m, n ≤ m → m < k → isUsable locators expression (candidate base m) = false) :
    firstUsable? locators expression base tries n = some (candidate base k) := by
  induction tries generalizing n with
  | zero => omega
  | succ tries ih =>
    rw [firstUsable?]
    rcases Nat.eq_or_lt_of_le hn with rfl | hlater
    · rw [if_pos husable]
    · have hfirst := hpassed n (Nat.le_refl n) hlater
      rw [if_neg (Bool.eq_false_iff.mp hfirst)]
      exact ih hlater (by omega) fun m hm => hpassed m (by omega)

/-- As many tries as are allowed are enough for the first candidate that can be used. -/
theorem nextFree_eq_candidate {k : Nat} (hlow : 2 ≤ k) (hhigh : k ≤ locators.length + 2)
    (husable : isUsable locators expression (candidate base k) = true)
    (hpassed : ∀ m, 2 ≤ m → m < k → isUsable locators expression (candidate base m) = false) :
    nextFree locators base expression = candidate base k := by
  rw [nextFree, firstUsable?_eq_candidate hlow (by omega) husable hpassed, Option.getD_some]

/-- The search for a free name ends with the first candidate that can be used. -/
theorem exists_nextFree_eq (locators : List (Text × Text)) (base expression : Text) :
    ∃ k, 2 ≤ k ∧ k ≤ locators.length + 2 ∧ nextFree locators base expression = candidate base k
      ∧ isUsable locators expression (candidate base k) = true
      ∧ ∀ m, 2 ≤ m → m < k → isUsable locators expression (candidate base m) = false := by
  obtain ⟨n, hn, hbound, hfree⟩ := exists_isUsable_candidate locators expression base 2
  have hexists : ∃ k, 2 ≤ k ∧ isUsable locators expression (candidate base k) = true :=
    ⟨n, hn, hfree⟩
  obtain ⟨hlow, husable⟩ := Nat.find_spec hexists
  have hhigh : Nat.find hexists ≤ n := Nat.find_min' hexists ⟨hn, hfree⟩
  have hpassed : ∀ m, 2 ≤ m → m < Nat.find hexists →
      isUsable locators expression (candidate base m) = false := by
    intro m hm hless
    exact Bool.eq_false_iff.mpr fun husable => Nat.find_min hexists hless ⟨hm, husable⟩
  exact ⟨Nat.find hexists, hlow, by omega,
    nextFree_eq_candidate hlow (by omega) husable hpassed, husable, hpassed⟩

/-! ### The name under which a locator is stored -/

/-- The name that is asked for is passed over only where collisions lead to a suffix. -/
theorem storedName_eq (registry : Registry) (name locator : Text) :
    registry.storedName name locator
      = if registry.policy = .suffix
            ∧ isUsable registry.locators (expressionOf locator) name = false
        then nextFree registry.locators name (expressionOf locator) else name := by
  unfold storedName resolve isUsable locatorOf?
  cases registry.locators.lookup name with
  | none => simp
  | some held =>
    by_cases hsame : held = expressionOf locator
    · simp [hsame]
    · cases registry.policy <;> simp [hsame]

/-- How a locator comes by the name under which it is stored. -/
inductive StoredAs (registry : Registry) (name expression : Text) : Text → Prop where
  /-- It gets the name that is asked for. -/
  | asked (usable : registry.policy = .suffix →
      isUsable registry.locators expression name = true) :
    StoredAs registry name expression name
  /-- It gets a candidate, as the name and all candidates before that one are taken. -/
  | numbered (n : Nat) (policy : registry.policy = .suffix)
      (taken : isUsable registry.locators expression name = false)
      (low : 2 ≤ n) (high : n ≤ registry.size + 2)
      (usable : isUsable registry.locators expression (candidate name n) = true)
      (passed : ∀ m, 2 ≤ m → m < n →
        isUsable registry.locators expression (candidate name m) = false) :
    StoredAs registry name expression (candidate name n)

/-- Every locator comes by its name in one of these ways. -/
theorem storedAs_storedName (registry : Registry) (name locator : Text) :
    StoredAs registry name (expressionOf locator) (registry.storedName name locator) := by
  rw [storedName_eq]
  split
  next htaken =>
    obtain ⟨k, hlow, hhigh, hname, husable, hpassed⟩ :=
      exists_nextFree_eq registry.locators name (expressionOf locator)
    rw [hname]
    exact .numbered k htaken.1 htaken.2 hlow hhigh husable hpassed
  next hasked => exact .asked fun hsuffix => by simpa [hsuffix] using hasked

namespace StoredAs

variable {registry : Registry} {name expression stored : Text}

/-- Where collisions lead to a suffix, there is one such way only. -/
theorem storedName_eq {locator : Text} (h : StoredAs registry name (expressionOf locator) stored)
    (hpolicy : registry.policy = .suffix) : registry.storedName name locator = stored := by
  rw [Registry.storedName_eq]
  cases h with
  | asked usable => simp [usable hpolicy]
  | numbered n policy taken low high usable passed =>
    rw [if_pos ⟨policy, taken⟩]
    exact nextFree_eq_candidate low high usable passed

/-- Where collisions lead to a suffix, a locator is never stored under a name that another one
has. -/
theorem isUsable (h : StoredAs registry name expression stored)
    (hpolicy : registry.policy = .suffix) :
    isUsable registry.locators expression stored = true := by
  cases h with
  | asked usable => exact usable hpolicy
  | numbered n policy taken low high usable passed => exact usable

/-- Where they lead to another entry, it is stored under the name that is asked for. -/
theorem eq_asked (h : StoredAs registry name expression stored)
    (hpolicy : registry.policy = .overwrite) : stored = name := by
  cases h with
  | asked usable => rfl
  | numbered n policy taken low high usable passed => cases policy.symm.trans hpolicy

end StoredAs

end Registry
end StepRecorder
