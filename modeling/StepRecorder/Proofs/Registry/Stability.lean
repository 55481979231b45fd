import StepRecorder.Proofs.Registry.Permanence

/-!
Names are stable where a collision leads to a suffix: a locator that is bound under a name again, by
another id, is stored as it was the first time, whatever was bound in between.

    e1 Login //a      e1 ─▶ Login
    e2 Login //b      e2 ─▶ Login_2
    e3 Login_3 //c    e3 ─▶ Login_3
    e4 Login //b      e4 ─▶ Login_2       Login and Login_2 are still where they were

Entries are never removed, so what the search has passed over once is passed over again, and it
stops at the entry that it made.

Main statement: `stored_name_is_stable`.
-/

namespace StepRecorder.Registry

variable {registry earlier later : Registry} {locators more : List (Text × Text)}
  {name expression stored locator : Text}

theorem isUsable_of_lookup (h : locators.lookup name = some expression) :
    isUsable locators expression name = true := by
  simp [isUsable, h]

/-- A name that another locator has cannot be used later either. -/
theorem not_isUsable_of_prefix (hmore : locators <+: more)
    (h : isUsable locators expression name = false) : isUsable more expression name = false := by
  unfold isUsable at h ⊢
  cases hlookup : locators.lookup name with
  | none => simp [hlookup] at h
  | some held =>
    rw [hlookup] at h
    rw [Ordered.lookup_of_prefix hmore hlookup]
    exact h

/-- The way in which a locator came by its name stays open to it, and to no other one. -/
theorem StoredAs.extends (h : StoredAs earlier name expression stored)
    (hextends : Extends earlier later) (hheld : later.locatorOf? stored = some expression) :
    StoredAs later name expression stored := by
  cases h with
  | asked usable => exact .asked fun _ => isUsable_of_lookup hheld
  | numbered n policy taken low high usable passed =>
    have hsize : earlier.size ≤ later.size := hextends.locators.length_le
    refine .numbered n (hextends.policy.trans policy) ?_ low (by omega)
      (isUsable_of_lookup hheld) ?_
    · exact not_isUsable_of_prefix hextends.locators taken
    · intro m hm hmn
      exact not_isUsable_of_prefix hextends.locators (passed m hm hmn)

/-- A locator that has the name it is to be stored under leaves the entries as they are. -/
theorem locators_enter (h : registry.locatorOf? name = some (expressionOf locator)) (id : Text) :
    (registry.enter id name locator).locators = registry.locators :=
  Ordered.put_of_lookup h

/-- Where collisions lead to a suffix, the name of a locator that is bound is its name from then on:
the same request for any new id comes to the same name, and adds no entry. -/
theorem stored_name_is_stable {requests : List Request} {i j : Nat} {request : Request}
    {binding : Binding} {other : Text} (hrequest : requests[i]? = some request)
    (hbound : answerAt requests i = some (.bound binding)) (hij : i < j)
    (hnew : (history requests j).nameOf? other = none) :
    (history requests j).answer ⟨other, request.name, request.locator⟩
        = .bound ⟨other, binding.name, request.locator⟩
      ∧ ((history requests j).take ⟨other, request.name, request.locator⟩).locators
        = (history requests j).locators := by
  obtain ⟨-, hheld⟩ := kept_of_bound hbound hij
  have hextends := extends_history requests (Nat.le_of_lt hij)
  -- the name was found in the registry before the first request
  have hfirst : StoredAs (history requests i) request.name (expressionOf request.locator)
      binding.name ∧ binding.locator = request.locator := by
    obtain ⟨again, hagain, hserves⟩ := serves_history hbound
    obtain rfl := Option.some.inj (hrequest.symm.trans hagain)
    generalize history requests (i + 1) = next at hserves
    cases hserves with
    | bound name stored new => exact ⟨stored ▸ storedAs_storedName _ _ _, rfl⟩
  obtain ⟨hstored, hlocator⟩ := hfirst
  rw [hlocator] at hheld
  have hname : (history requests j).storedName request.name request.locator = binding.name :=
    (hstored.extends hextends hheld).storedName_eq (policy_history requests j)
  refine ⟨?_, ?_⟩
  · rw [answer_new hnew, hname]
  · rw [take_new hnew, hname]
    exact locators_enter hheld other

/-- Two long names that are cut to the same beginning. The second one keeps its number, although
later a name is asked for that looks like a candidate, and the first one takes the next number. -/
theorem stored_name_of_cut_names :
    let long : Char → Text := fun c => List.replicate 38 'x' ++ [c]
    let cut : Char → Text := fun c => List.replicate 37 'x' ++ ['_', c]
    let requests : List Request := [
      ⟨['1'], long 'a', "//a".toList⟩, ⟨['2'], long 'b', "//b".toList⟩,
      ⟨['3'], long 'a', "//c".toList⟩, ⟨['4'], long 'b', "//d".toList⟩,
      ⟨['5'], cut '4', "//e".toList⟩, ⟨['6'], long 'a', "//f".toList⟩]
    let binding : Binding := ⟨['4'], cut '3', "//d".toList⟩
    answerAt requests 3 = some (.bound binding)
      ∧ (history requests 6).nameOf? ['7'] = none
      ∧ Ordered.keys (history requests 6).locators
          = [long 'a', long 'b', cut '2', cut '3', cut '4', cut '5']
      ∧ (history requests 6).answer ⟨['7'], long 'b', "//d".toList⟩
          = .bound ⟨['7'], cut '3', "//d".toList⟩ := by
  intro long cut requests binding
  have hrequest : requests[3]? = some ⟨['4'], long 'b', "//d".toList⟩ := rfl
  have hbound : answerAt requests 3 = some (.bound binding) := by decide +kernel
  have hnew : (history requests 6).nameOf? ['7'] = none := by decide +kernel
  have hkeys : Ordered.keys (history requests 6).locators
      = [long 'a', long 'b', cut '2', cut '3', cut '4', cut '5'] := by decide +kernel
  have hstable := stored_name_is_stable hrequest hbound (by decide : 3 < 6) hnew
  exact ⟨hbound, hnew, hkeys, hstable.1⟩

end StepRecorder.Registry
