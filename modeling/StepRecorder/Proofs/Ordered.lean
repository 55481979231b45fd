import Mathlib.Data.List.Induction
import Mathlib.Data.List.Nodup
import StepRecorder.Ordered

/-!
Ordered maps in which no key occurs twice. `put` keeps them so, and a list of such keys and values
is the map that it is made into.

Where a key has no other value yet, `put` only adds to the end, so that the older map is a prefix of
the newer one and all that could be looked up stays.

Where keys are given more than once, each stands where it was first given, with the value that it
was given last.

Main statements: `nodup_keys_put`, `ofPairs_of_nodup`, `prefix_put`, `keys_ofPairs`,
`lookup_ofPairs`.
-/

namespace StepRecorder.Ordered

variable {α β : Type} [DecidableEq α]

theorem nodup_keys_put {entries : List (α × β)} (h : (keys entries).Nodup) (key : α) (value : β) :
    (keys (put key value entries)).Nodup := by
  rw [keys_put]
  split
  · exact h
  next hnew => exact List.nodup_append.mpr ⟨h, List.nodup_singleton key, by
      rintro old hold new hmem rfl
      exact hnew (List.mem_singleton.mp hmem ▸ hold)⟩

theorem mem_keys_put (key : α) (value : β) (entries : List (α × β)) (other : α) :
    other ∈ keys (put key value entries) ↔ other = key ∨ other ∈ keys entries := by
  rw [keys_put]
  split
  next hold =>
    constructor
    · exact Or.inr
    · rintro (rfl | hother)
      · exact hold
      · exact hother
  next => simp [or_comm]

theorem length_le_put (key : α) (value : β) (entries : List (α × β)) :
    entries.length ≤ (put key value entries).length := by
  have hkeys := congrArg List.length (keys_put key value entries)
  split at hkeys <;> simp [keys] at hkeys <;> omega

theorem length_put_le (key : α) (value : β) (entries : List (α × β)) :
    (put key value entries).length ≤ entries.length + 1 := by
  have hkeys := congrArg List.length (keys_put key value entries)
  split at hkeys <;> simp [keys] at hkeys <;> omega

theorem put_of_not_mem {key : α} {entries : List (α × β)} (h : key ∉ keys entries) (value : β) :
    put key value entries = entries ++ [(key, value)] := by
  induction entries with
  | nil => rfl
  | cons entry entries ih =>
    simp only [keys, List.map_cons] at h
    obtain ⟨hne, hrest⟩ := List.ne_and_not_mem_of_not_mem_cons h
    rw [put, if_neg (Ne.symm hne), ih hrest, List.cons_append]

/-- A key that is there keeps its place, and so do all other entries. -/
theorem put_of_mem {key : α} {entries : List (α × β)} (h : key ∈ keys entries) (value : β) :
    ∃ before held after, entries = before ++ (key, held) :: after
      ∧ put key value entries = before ++ (key, value) :: after := by
  induction entries with
  | nil => cases h
  | cons entry entries ih =>
    obtain ⟨first, held⟩ := entry
    by_cases hfirst : first = key
    · subst hfirst
      exact ⟨[], held, entries, rfl, if_pos rfl⟩
    · have hrest : key ∈ keys entries := by
        rcases List.mem_cons.mp h with heq | hrest
        · exact absurd heq.symm hfirst
        · exact hrest
      obtain ⟨before, old, after, rfl, hput⟩ := ih hrest
      refine ⟨(first, held) :: before, old, after, rfl, ?_⟩
      rw [put, if_neg hfirst, hput, List.cons_append]

theorem ofPairs_concat (pairs : List (α × β)) (key : α) (value : β) :
    ofPairs (pairs ++ [(key, value)]) = put key value (ofPairs pairs) := by
  rw [ofPairs, List.foldl_append]
  rfl

/-- Keys and values without a key given twice are the map they make. -/
theorem ofPairs_of_nodup {entries : List (α × β)} (h : (keys entries).Nodup) :
    ofPairs entries = entries := by
  suffices hfold : ∀ before : List (α × β), (keys (before ++ entries)).Nodup →
      entries.foldl (fun found pair => put pair.1 pair.2 found) before = before ++ entries by
    exact hfold [] h
  clear h
  induction entries with
  | nil => simp
  | cons entry entries ih =>
    intro before hnodup
    have hnew : entry.1 ∉ keys before := by
      intro hmem
      simp only [keys, List.map_append, List.map_cons] at hnodup
      exact (List.nodup_append.mp hnodup).2.2 _ hmem _ List.mem_cons_self rfl
    rw [List.foldl_cons, put_of_not_mem hnew, ih]
    · simp
    · simpa using hnodup

/-! ### Looking up -/

variable [BEq α] [LawfulBEq α] {key : α} {value : β} {entries more : List (α × β)}

omit [DecidableEq α] in
theorem mem_keys_of_lookup (h : entries.lookup key = some value) : key ∈ keys entries := by
  obtain ⟨before, after, rfl, -⟩ := List.lookup_eq_some_iff.mp h
  simp [keys]

omit [DecidableEq α] in
theorem not_mem_keys_of_lookup (h : entries.lookup key = none) : key ∉ keys entries := by
  intro hmem
  obtain ⟨entry, hentry, rfl⟩ := List.mem_map.mp hmem
  simpa using List.lookup_eq_none_iff.mp h entry hentry

omit [DecidableEq α] [LawfulBEq α] in
/-- What can be looked up in a prefix of a map. -/
theorem lookup_of_prefix (hmore : entries <+: more) (h : entries.lookup key = some value) :
    more.lookup key = some value := by
  obtain ⟨rest, rfl⟩ := hmore
  rw [List.lookup_append, h]
  rfl

/-- Giving a key the value that it has. -/
theorem put_of_lookup (h : entries.lookup key = some value) : put key value entries = entries := by
  induction entries with
  | nil => cases h
  | cons entry entries ih =>
    obtain ⟨first, held⟩ := entry
    by_cases hfirst : first = key
    · subst hfirst
      rw [List.lookup_cons_self] at h
      rw [put, if_pos rfl, Option.some.inj h]
    · have hne : (key == first) = false := by simp [Ne.symm hfirst]
      rw [List.lookup_cons, hne] at h
      rw [put, if_neg hfirst, ih h]

/-- Where a key has no other value, the map is at most longer afterwards. -/
theorem prefix_put (h : ∀ held, entries.lookup key = some held → held = value) :
    entries <+: put key value entries := by
  cases hlookup : entries.lookup key with
  | none =>
    rw [put_of_not_mem (not_mem_keys_of_lookup hlookup)]
    exact List.prefix_append _ _
  | some held =>
    have hsame := put_of_lookup (h held hlookup ▸ hlookup)
    exact hsame.symm ▸ List.prefix_refl _

/-! ### Keys that are given more than once -/

/-- The keys are in the order in which they were first given. -/
theorem keys_ofPairs (pairs : List (α × β)) :
    keys (ofPairs pairs) = (pairs.map (·.1)).eraseDups := by
  induction pairs using List.reverseRecOn with
  | nil => rfl
  | append_singleton pairs pair ih =>
    obtain ⟨key, value⟩ := pair
    rw [ofPairs_concat, keys_put, ih, List.map_append, List.eraseDups_append]
    by_cases hkey : key ∈ pairs.map (·.1)
    · have hlast : [key].removeAll (pairs.map (·.1)) = [] := by
        simpa [List.removeAll] using hkey
      rw [if_pos (List.mem_eraseDups.mpr hkey), List.map_singleton, hlast, List.eraseDups_nil,
        List.append_nil]
    · have hlast : [key].removeAll (pairs.map (·.1)) = [key] := by
        simpa [List.removeAll] using hkey
      rw [if_neg (mt List.mem_eraseDups.mp hkey), List.map_singleton, hlast, List.eraseDups_cons]
      rfl

/-- The value of a key is the one that it was given last. -/
theorem lookup_ofPairs (pairs : List (α × β)) (key : α) :
    (ofPairs pairs).lookup key = pairs.reverse.lookup key := by
  induction pairs using List.reverseRecOn with
  | nil => rfl
  | append_singleton pairs pair ih =>
    obtain ⟨last, value⟩ := pair
    rw [ofPairs_concat, List.reverse_append, List.reverse_singleton, List.singleton_append]
    by_cases hkey : key = last
    · subst hkey
      rw [lookup_put_self, List.lookup_cons_self]
    · rw [lookup_put_of_ne hkey, ih, List.lookup_cons, beq_eq_false_iff_ne.mpr hkey]

/-- Looking up among keys and values that are read off some items. -/
theorem lookup_map_eq_find? {ι : Type} (key : α) (keyOf : ι → α)
    (valueOf : ι → β) (items : List ι) :
    (items.map fun item => (keyOf item, valueOf item)).lookup key
      = (items.find? fun item => keyOf item = key).map valueOf := by
  induction items with
  | nil => rfl
  | cons item items ih =>
    by_cases hkey : keyOf item = key
    · subst hkey
      simp
    · have hne : (key == keyOf item) = false := beq_eq_false_iff_ne.mpr (Ne.symm hkey)
      rw [List.map_cons, List.lookup_cons, hne, ih, List.find?_cons_of_neg (by simpa using hkey)]

end StepRecorder.Ordered
