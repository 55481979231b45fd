/-!
Ordered maps: lists of keys and values in the order in which the keys were first given. `put` gives
a key a value; a key that is there keeps its place.

Main statements: `lookup_put_self` and `lookup_put_of_ne` say what `put` does to the view
`List.lookup`, and `lookup_filter` what leaving out keys does; `keys_put` says that a new key goes
to the end and nothing else moves.
-/

namespace StepRecorder.Ordered

variable {α β : Type} [DecidableEq α]

/-- The map with a value for a key. -/
def put (key : α) (value : β) : List (α × β) → List (α × β)
  | [] => [(key, value)]
  | entry :: entries =>
    if entry.1 = key then (key, value) :: entries else entry :: put key value entries

/-- The map of some keys and values, each given in turn. -/
def ofPairs (pairs : List (α × β)) : List (α × β) :=
  pairs.foldl (fun entries pair => put pair.1 pair.2 entries) []

/-- The keys, in order. -/
def keys (entries : List (α × β)) : List α := entries.map (·.1)

theorem keys_put (key : α) (value : β) (entries : List (α × β)) :
    keys (put key value entries)
      = if key ∈ keys entries then keys entries else keys entries ++ [key] := by
  induction entries with
  | nil => simp [put, keys]
  | cons entry entries ih =>
    by_cases h : entry.1 = key
    · simp [put, keys, h]
    · have h' : ¬ key = entry.1 := fun e => h e.symm
      simp only [put, h, if_false, keys, List.map_cons, List.mem_cons, h', false_or] at ih ⊢
      rw [ih]
      split <;> simp_all

/-! Below, keys are looked up by any equality test that is right. -/

variable [BEq α] [LawfulBEq α]

@[simp] theorem lookup_put_self (key : α) (value : β) (entries : List (α × β)) :
    (put key value entries).lookup key = some value := by
  induction entries with
  | nil => simp [put]
  | cons entry entries ih =>
    obtain ⟨first, held⟩ := entry
    by_cases h : first = key
    · simp [put, h]
    · have h' : (key == first) = false := by simp [Ne.symm h]
      simp [put, h, List.lookup_cons, h', ih]

theorem lookup_put_of_ne {key other : α} (h : other ≠ key) (value : β) (entries : List (α × β)) :
    (put key value entries).lookup other = entries.lookup other := by
  have hother : (other == key) = false := by simp [h]
  induction entries with
  | nil => simp [put, List.lookup_cons, hother]
  | cons entry entries ih =>
    obtain ⟨first, held⟩ := entry
    by_cases hk : first = key
    · subst hk
      simp [put, List.lookup_cons, hother]
    · simp only [put, hk, if_false, List.lookup_cons, ih]

omit [DecidableEq α] in
theorem lookup_filter (keeps : α → Bool) (key : α) (entries : List (α × β)) :
    (entries.filter fun entry => keeps entry.1).lookup key
      = if keeps key then entries.lookup key else none := by
  induction entries with
  | nil => simp
  | cons entry entries ih =>
    obtain ⟨first, held⟩ := entry
    by_cases hk : key = first
    · subst hk
      cases h : keeps key <;> simp [h, ih]
    · have h' : (key == first) = false := by simp [hk]
      cases h : keeps first <;> simp [h, List.lookup_cons, h', ih]

end StepRecorder.Ordered
