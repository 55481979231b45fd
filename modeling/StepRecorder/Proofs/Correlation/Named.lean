import StepRecorder.Proofs.Naming
import StepRecorder.Proofs.Ordered
import StepRecorder.Proofs.Script

/-!
What can be said of the names in a state. Every name that an id is known by is a key of the
registry, and stays one; every key is a proper name. So whatever action a step records can be read
back, and refers to a key.

Main statements: `Named.step`, `Named.legible`, `keys_subset`.
-/

namespace StepRecorder.Correlation

/-- A state whose registry has each name once, only proper ones, and all that ids are known by. -/
structure Named (state : State) : Prop where
  distinct : (Ordered.keys state.registry.locators).Nodup
  proper : ∀ name ∈ Ordered.keys state.registry.locators, Naming.IsProper name
  known : ∀ id name, state.registry.nameOf? id = some name →
    name ∈ Ordered.keys state.registry.locators

variable {policy : TargetPolicy} {oracle : Oracle} {state next : State} {event : Event}
  {outcome : Outcome} {write : Option Write}

theorem Named.initial (collision : CollisionPolicy) : Named (State.initial collision) := by
  refine ⟨List.nodup_nil, ?_, ?_⟩
  · intro name hname
    cases hname
  · intro id name hname
    cases hname

theorem isProper_newName (oracle : Oracle) (state : State) (locator : Text) :
    Naming.IsProper (newName oracle state locator) :=
  (Registry.storedAs_storedName _ _ _).isProper (Naming.isProper_choose _ _ _)

/-- Where the registry stays, so does what is known of it. -/
theorem Named.congr (h : Named state) (hregistry : next.registry = state.registry) :
    Named next := by
  obtain ⟨hdistinct, hproper, hknown⟩ := h
  exact ⟨hregistry ▸ hdistinct, hregistry ▸ hproper, hregistry ▸ hknown⟩

theorem Named.bound (h : Named state) (id locator : Text) :
    Named (bound oracle state id locator) := by
  have hkeys := Ordered.mem_keys_put (newName oracle state locator)
    (Registry.expressionOf locator) state.registry.locators
  refine ⟨Ordered.nodup_keys_put h.distinct _ _, ?_, ?_⟩
  · intro name hname
    rcases (hkeys name).mp hname with rfl | hold
    · exact isProper_newName oracle state locator
    · exact h.proper name hold
  · intro other name hname
    refine (hkeys name).mpr ?_
    simp only [Correlation.bound, Registry.nameOf?_enter] at hname
    split at hname
    · exact Or.inl (Option.some.inj hname).symm
    · exact Or.inr (h.known other name hname)

/-- A step keeps the names as they should be. -/
theorem Named.step (h : Named state)
    (hstep : Transition policy oracle state event next outcome write) : Named next := by
  cases hstep with
  | bound id locator pending new => exact h.bound id locator
  | entered text id name target known => exact h.congr (registry_afterText policy state)
  | enterUnknown text id target unknown => exact h.congr (registry_afterText policy state)
  | _ => exact h.congr rfl

/-- No key is ever removed. -/
theorem keys_subset (hstep : Transition policy oracle state event next outcome write) :
    Ordered.keys state.registry.locators ⊆ Ordered.keys next.registry.locators := by
  cases hstep with
  | bound id locator pending new =>
    exact fun name hname => (Ordered.mem_keys_put _ _ _ name).mpr (Or.inr hname)
  | entered text id name target known => rw [registry_afterText]; exact List.Subset.refl _
  | enterUnknown text id target unknown => rw [registry_afterText]; exact List.Subset.refl _
  | _ => exact List.Subset.refl _

/-- An action that a step records can be read back, and its name is a key. -/
theorem Named.legible (h : Named state) (hpayload : event.payload ≠ [])
    (hstep : Transition policy oracle state event next outcome write) :
    ∀ action ∈ outcome.actions, action.IsLegible
      ∧ action.target ∈ Ordered.keys state.registry.locators := by
  cases hstep with
  | tapped id name known =>
    intro action haction
    obtain rfl := List.mem_singleton.mp haction
    have hkey := h.known id name known
    obtain ⟨hne, hsolid⟩ := h.proper name hkey
    exact ⟨⟨hsolid, hne, fun _ _ heq => nomatch heq⟩, hkey⟩
  | entered text id name target known =>
    intro action haction
    obtain rfl := List.mem_singleton.mp haction
    have hkey := h.known id name known
    obtain ⟨hne, hsolid⟩ := h.proper name hkey
    refine ⟨⟨hsolid, hne, ?_⟩, hkey⟩
    rintro _ _ ⟨⟩
    exact hpayload
  | _ => exact fun _ haction => nomatch haction

end StepRecorder.Correlation
