import StepRecorder.Proofs.Registry.Candidate

/-!
Bindings are permanent where a collision leads to a suffix. A registry is given requests, one after
the other. Each of them either is refused and changes nothing, or binds an id and adds at most one
entry at the end:

    e1 Login //a      e1 ─▶ Login          Login    xpath=//a
    e2 Login //b      e2 ─▶ Login_2        Login_2  xpath=//b
    e1 Exit //c       refused: e1 is Login
    e3 Login //b      e3 ─▶ Login_2

`Serves` lists what a request can do. From it follow `Extends`, what no request takes away, and
`Consistent`, how ids and entries fit together.

Main statement: `bindings_are_permanent`.
-/

namespace StepRecorder.Registry

/-- An id to be bound to a locator, and the name that is asked for. -/
structure Request where
  id : Text
  name : Text
  locator : Text
  deriving Repr, DecidableEq

/-- The registry after a request. -/
def take (registry : Registry) (request : Request) : Registry :=
  (registry.bind request.id request.name request.locator).1

/-- What a request comes to. -/
def answer (registry : Registry) (request : Request) : BindResult :=
  (registry.bind request.id request.name request.locator).2.1

/-- The registry after some requests. -/
def takeAll (registry : Registry) (requests : List Request) : Registry :=
  requests.foldl take registry

variable {registry earlier later next : Registry} {request : Request} {result : BindResult}
  {requests : List Request}

/-! ### One request -/

theorem take_known {name : Text} (h : registry.nameOf? request.id = some name) :
    registry.take request = registry := by
  simp only [take, bind, h]

theorem answer_known {name : Text} (h : registry.nameOf? request.id = some name) :
    registry.answer request = .alreadyBound name := by
  simp only [answer, bind, h]

theorem take_new (h : registry.nameOf? request.id = none) :
    registry.take request = registry.enter request.id
      (registry.storedName request.name request.locator) request.locator := by
  rw [take, bind_new h]

theorem answer_new (h : registry.nameOf? request.id = none) :
    registry.answer request = .bound
      ⟨request.id, registry.storedName request.name request.locator, request.locator⟩ := by
  rw [answer, bind_new h]

/-- What a request can do. -/
inductive Serves (registry : Registry) (request : Request) : Registry → BindResult → Prop where
  | refused (name : Text) (known : registry.nameOf? request.id = some name) :
    Serves registry request registry (.alreadyBound name)
  | bound (name : Text) (stored : name = registry.storedName request.name request.locator)
      (new : registry.nameOf? request.id = none) :
    Serves registry request (registry.enter request.id name request.locator)
      (.bound ⟨request.id, name, request.locator⟩)

/-- A request does one of these. -/
theorem serves_take (registry : Registry) (request : Request) :
    Serves registry request (registry.take request) (registry.answer request) := by
  cases hname : registry.nameOf? request.id with
  | some name =>
    rw [take_known hname, answer_known hname]
    exact .refused name hname
  | none =>
    rw [take_new hname, answer_new hname]
    exact .bound _ rfl hname

/-- What a registry has, a later one still has. -/
structure Extends (earlier later : Registry) : Prop where
  policy : later.policy = earlier.policy
  names : ∀ id name, earlier.nameOf? id = some name → later.nameOf? id = some name
  locators : earlier.locators <+: later.locators

theorem Extends.refl (registry : Registry) : Extends registry registry :=
  ⟨rfl, fun _ _ h => h, List.prefix_refl _⟩

theorem Extends.trans {last : Registry} (h : Extends earlier later) (h' : Extends later last) :
    Extends earlier last :=
  ⟨h'.policy.trans h.policy, fun id name hname => h'.names id name (h.names id name hname),
    h.locators.trans h'.locators⟩

/-- An entry that is there keeps its expression. -/
theorem Extends.locatorOf? (h : Extends earlier later) {name expression : Text}
    (hentry : earlier.locatorOf? name = some expression) :
    later.locatorOf? name = some expression :=
  Ordered.lookup_of_prefix h.locators hentry

/-- A request takes nothing away: a new id had no name, and a usable name no other expression. -/
theorem Serves.extends (h : Serves registry request next result)
    (hpolicy : registry.policy = .suffix) : Extends registry next := by
  cases h with
  | refused name known => exact .refl registry
  | bound name stored new =>
    refine ⟨rfl, ?_, ?_⟩
    · intro id held hheld
      have hid : id ≠ request.id := by
        rintro rfl
        rw [new] at hheld
        cases hheld
      rw [nameOf?_enter, if_neg hid]
      exact hheld
    · rw [stored]
      exact Ordered.prefix_put (isUsable_iff.mp ((storedAs_storedName _ _ _).isUsable hpolicy))

/-- A registry whose ids are named by its entries, each of which names an id. -/
structure Consistent (registry : Registry) : Prop where
  known : ∀ id name, registry.nameOf? id = some name → name ∈ Ordered.keys registry.locators
  used : ∀ name ∈ Ordered.keys registry.locators, ∃ id, registry.nameOf? id = some name

theorem Consistent.empty (policy : CollisionPolicy) : Consistent { policy } := by
  refine ⟨?_, ?_⟩
  · intro id name hname
    cases hname
  · intro name hname
    cases hname

/-- A request keeps ids and entries together. The entry of the new name is used by the new id, and
no other id loses its name. -/
theorem Consistent.serve (h : Consistent registry) (hserves : Serves registry request next result) :
    Consistent next := by
  cases hserves with
  | refused name known => exact h
  | bound name stored new =>
    refine ⟨?_, ?_⟩
    · intro id held hheld
      refine (Ordered.mem_keys_put _ _ _ held).mpr ?_
      rw [nameOf?_enter] at hheld
      split at hheld
      · exact Or.inl (Option.some.inj hheld).symm
      · exact Or.inr (h.known id held hheld)
    · intro held hheld
      rcases (Ordered.mem_keys_put _ _ _ held).mp hheld with rfl | hold
      · exact ⟨request.id, by rw [nameOf?_enter, if_pos rfl]⟩
      · obtain ⟨id, hid⟩ := h.used held hold
        have hne : id ≠ request.id := by
          rintro rfl
          rw [new] at hid
          cases hid
        exact ⟨id, by rw [nameOf?_enter, if_neg hne, hid]⟩

/-! ### Many requests -/

theorem takeAll_append (registry : Registry) (requests more : List Request) :
    registry.takeAll (requests ++ more) = (registry.takeAll requests).takeAll more :=
  List.foldl_append

theorem extends_takeAll (h : registry.policy = .suffix) (requests : List Request) :
    Extends registry (registry.takeAll requests) := by
  induction requests generalizing registry with
  | nil => exact .refl registry
  | cons request requests ih =>
    have hfirst := (serves_take registry request).extends h
    exact hfirst.trans (ih (hfirst.policy.trans h))

theorem Consistent.takeAll (h : Consistent registry) (requests : List Request) :
    Consistent (registry.takeAll requests) := by
  induction requests generalizing registry with
  | nil => exact h
  | cons request requests ih => exact ih (h.serve (serves_take registry request))

/-! ### The way through some requests -/

/-- The registry after the first `n` of some requests. -/
def history (requests : List Request) (n : Nat) : Registry :=
  takeAll { policy := .suffix } (requests.take n)

/-- What the request after the first `n` comes to. -/
def answerAt (requests : List Request) (n : Nat) : Option BindResult :=
  requests[n]?.map (history requests n).answer

theorem policy_history (requests : List Request) (n : Nat) :
    (history requests n).policy = .suffix :=
  (extends_takeAll rfl _).policy

theorem extends_history (requests : List Request) {i j : Nat} (h : i ≤ j) :
    Extends (history requests i) (history requests j) := by
  obtain ⟨more, rfl⟩ := Nat.exists_eq_add_of_le h
  have hlater : history requests (i + more)
      = (history requests i).takeAll ((requests.drop i).take more) := by
    rw [history, List.take_add, takeAll_append]
    rfl
  rw [hlater]
  exact extends_takeAll (policy_history requests i) _

theorem history_succ {n : Nat} (h : requests[n]? = some request) :
    history requests (n + 1) = (history requests n).take request := by
  rw [history, List.take_add_one, takeAll_append, h]
  rfl

theorem history_succ_of_none {n : Nat} (h : requests[n]? = none) :
    history requests (n + 1) = history requests n := by
  rw [history, List.take_add_one, takeAll_append, h]
  rfl

/-- Every request on the way does what a request can do. -/
theorem serves_history {n : Nat} (h : answerAt requests n = some result) :
    ∃ request, requests[n]? = some request
      ∧ Serves (history requests n) request (history requests (n + 1)) result := by
  obtain ⟨request, hrequest, rfl⟩ := Option.map_eq_some_iff.mp h
  exact ⟨request, hrequest, history_succ hrequest ▸ serves_take _ _⟩

/-- A binding is in the registry at once, and stays there. -/
theorem kept_of_bound {i j : Nat} {binding : Binding}
    (h : answerAt requests i = some (.bound binding)) (hij : i < j) :
    (history requests j).nameOf? binding.id = some binding.name
      ∧ (history requests j).locatorOf? binding.name
          = some (expressionOf binding.locator) := by
  obtain ⟨request, -, hserves⟩ := serves_history h
  have hextends := extends_history requests (Nat.succ_le_of_lt hij)
  generalize history requests (i + 1) = next at hserves hextends
  cases hserves with
  | bound name stored new =>
    refine ⟨hextends.names _ _ ?_, hextends.locatorOf? ?_⟩
    · rw [nameOf?_enter, if_pos rfl]
    · simp [enter, Registry.locatorOf?]

/-- A name that an id has was given to it by a request. -/
theorem exists_bound_of_nameOf? {i : Nat} {id name : Text}
    (h : (history requests i).nameOf? id = some name) :
    ∃ j < i, ∃ locator, answerAt requests j = some (.bound ⟨id, name, locator⟩) := by
  induction i with
  | zero => cases h
  | succ i ih =>
    cases hrequest : requests[i]? with
    | none =>
      rw [history_succ_of_none hrequest] at h
      obtain ⟨j, hj, hbound⟩ := ih h
      exact ⟨j, by omega, hbound⟩
    | some request =>
      have hanswer : answerAt requests i = some ((history requests i).answer request) := by
        rw [answerAt, hrequest, Option.map_some]
      rw [history_succ hrequest] at h
      have hserves := serves_take (history requests i) request
      generalize (history requests i).answer request = result at hanswer hserves
      generalize (history requests i).take request = next at h hserves
      cases hserves with
      | refused held known =>
        obtain ⟨j, hj, hbound⟩ := ih h
        exact ⟨j, by omega, hbound⟩
      | bound held stored new =>
        rw [nameOf?_enter] at h
        split at h
        next hid =>
          obtain rfl := Option.some.inj h
          exact ⟨i, by omega, request.locator, hid ▸ hanswer⟩
        next =>
          obtain ⟨j, hj, hbound⟩ := ih h
          exact ⟨j, by omega, hbound⟩

/-- Bindings that are permanent and correct, all the way through some requests. -/
structure Permanent (requests : List Request) : Prop where
  /-- A new id is bound to its locator. -/
  bound : ∀ i request, requests[i]? = some request →
    (history requests i).nameOf? request.id = none →
    ∃ name, answerAt requests i = some (.bound ⟨request.id, name, request.locator⟩)
  /-- An id that has a name keeps it, and nothing changes. -/
  refused : ∀ i request name, requests[i]? = some request →
    (history requests i).nameOf? request.id = some name →
    answerAt requests i = some (.alreadyBound name)
      ∧ history requests (i + 1) = history requests i
  /-- Only requests give names to ids. -/
  origin : ∀ i id name, (history requests i).nameOf? id = some name →
    ∃ j < i, ∃ locator, answerAt requests j = some (.bound ⟨id, name, locator⟩)
  /-- What was bound stays bound. -/
  kept : ∀ i j binding, answerAt requests i = some (.bound binding) → i < j →
    (history requests j).nameOf? binding.id = some binding.name
      ∧ (history requests j).locatorOf? binding.name = some (expressionOf binding.locator)
  /-- Entries are only added, at the end. -/
  grows : ∀ i j, i ≤ j → (history requests i).locators <+: (history requests j).locators
  /-- Ids that share a name were bound to the same locator. -/
  shared : ∀ i j binding other, answerAt requests i = some (.bound binding) →
    answerAt requests j = some (.bound other) → binding.name = other.name →
    binding.locator = other.locator
  /-- Every name of an id has an entry. -/
  known : ∀ i id name, (history requests i).nameOf? id = some name →
    name ∈ Ordered.keys (history requests i).locators
  /-- Every entry has the name of an id. -/
  used : ∀ i, ∀ name ∈ Ordered.keys (history requests i).locators,
    ∃ id, (history requests i).nameOf? id = some name

/-- Where a collision leads to a suffix, bindings are permanent and correct, whatever names are
asked for. -/
theorem bindings_are_permanent (requests : List Request) : Permanent requests := by
  have hconsistent : ∀ i, Consistent (history requests i) :=
    fun i => (Consistent.empty .suffix).takeAll _
  refine ⟨?_, ?_, ?_, ?_, ?_, ?_, ?_, ?_⟩
  · intro i request hrequest hnew
    refine ⟨(history requests i).storedName request.name request.locator, ?_⟩
    rw [answerAt, hrequest, Option.map_some, answer, bind_new hnew]
  · intro i request name hrequest hknown
    have hbind : (history requests i).bind request.id request.name request.locator
        = (history requests i, .alreadyBound name, []) := by
      simp only [bind, hknown]
    refine ⟨?_, ?_⟩
    · rw [answerAt, hrequest, Option.map_some, answer, hbind]
    · rw [history_succ hrequest, take, hbind]
  · exact fun i id name => exists_bound_of_nameOf?
  · exact fun i j binding => kept_of_bound
  · exact fun i j hij => (extends_history requests hij).locators
  · intro i j binding other hbinding hother hname
    -- both are kept until after the later of the two
    have hfirst := (kept_of_bound hbinding (Nat.lt_succ_of_le (Nat.le_max_left i j))).2
    have hsecond := (kept_of_bound hother (Nat.lt_succ_of_le (Nat.le_max_right i j))).2
    rw [hname, hsecond] at hfirst
    exact (List.append_cancel_left (Option.some.inj hfirst)).symm
  · exact fun i => (hconsistent i).known
  · exact fun i => (hconsistent i).used

/-- A name that looks like a candidate is in the way of the next one. -/
example :
    let requests : List Request := [⟨['1'], "Login".toList, "//a".toList⟩,
      ⟨['2'], "Login".toList, "//b".toList⟩, ⟨['3'], "Login_2".toList, "//c".toList⟩]
    answerAt requests 2 = some (.bound ⟨['3'], "Login_2_2".toList, "//c".toList⟩) := by
  decide +kernel

end StepRecorder.Registry
