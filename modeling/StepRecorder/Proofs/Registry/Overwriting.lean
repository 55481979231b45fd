import StepRecorder.Proofs.Registry.Permanence

/-!
Registries in which a newer locator takes an entry over. Of the requests that are granted the last
one for a name says what its entry holds, and the first one says where it stands. Of all requests
for an id the first one is granted, and says what the name of the id is:

    e1 Login //a     Login //a
    e2 Exit  //b     Login //a    Exit //b
    e3 Login //c     Login //c    Exit //b      e1 is Login still
    e1 Exit  //d     Login //c    Exit //b      refused

So the entries are the ordered map of the granted requests (`locators_takeAll`), and what is known
of such maps carries over.

Main statement: `last_request_wins`.
-/

namespace StepRecorder.Registry

/-- The requests among some that are granted, in order. -/
def granted (registry : Registry) : List Request → List Request
  | [] => []
  | request :: requests =>
    match registry.answer request with
    | .bound _ => request :: granted (registry.take request) requests
    | .alreadyBound _ => granted (registry.take request) requests

/-- A request as an entry. -/
def Request.entry (request : Request) : Text × Text := (request.name, expressionOf request.locator)

variable {registry : Registry} {request : Request}

/-! ### One request -/

/-- Where a newer locator takes an entry over, a name is never changed. -/
theorem storedName_overwrite (h : registry.policy = .overwrite) (name locator : Text) :
    registry.storedName name locator = name :=
  (storedAs_storedName registry name locator).eq_asked h

theorem locators_take_new (h : registry.policy = .overwrite)
    (hnew : registry.nameOf? request.id = none) :
    (registry.take request).locators
      = Ordered.put request.name (expressionOf request.locator) registry.locators := by
  rw [take_new hnew, storedName_overwrite h]
  rfl

theorem nameOf?_take_new (h : registry.policy = .overwrite)
    (hnew : registry.nameOf? request.id = none) (id : Text) :
    (registry.take request).nameOf? id
      = if id = request.id then some request.name else registry.nameOf? id := by
  rw [take_new hnew, storedName_overwrite h, nameOf?_enter]

theorem policy_take (registry : Registry) (request : Request) :
    (registry.take request).policy = registry.policy := by
  cases hname : registry.nameOf? request.id with
  | some name => rw [take_known hname]
  | none => rw [take_new hname, enter]

theorem granted_known {name : Text} (h : registry.nameOf? request.id = some name)
    (requests : List Request) :
    granted registry (request :: requests) = granted registry requests := by
  simp only [granted, answer_known h, take_known h]

theorem granted_new (h : registry.nameOf? request.id = none) (requests : List Request) :
    granted registry (request :: requests)
      = request :: granted (registry.take request) requests := by
  simp only [granted, answer_new h]

/-! ### Many requests -/

theorem policy_takeAll (registry : Registry) (requests : List Request) :
    (registry.takeAll requests).policy = registry.policy := by
  induction requests generalizing registry with
  | nil => rfl
  | cons request requests ih => exact (ih _).trans (policy_take registry request)

/-- The entries are made by the requests that are granted, one after the other. -/
theorem locators_takeAll (h : registry.policy = .overwrite) (requests : List Request) :
    (registry.takeAll requests).locators
      = ((granted registry requests).map Request.entry).foldl
          (fun entries pair => Ordered.put pair.1 pair.2 entries) registry.locators := by
  induction requests generalizing registry with
  | nil => rfl
  | cons request requests ih =>
    have hrest := ih ((policy_take registry request).trans h)
    change ((registry.take request).takeAll requests).locators = _
    cases hname : registry.nameOf? request.id with
    | some name =>
      rw [take_known hname] at hrest ⊢
      rw [hrest, granted_known hname]
    | none =>
      rw [hrest, granted_new hname, locators_take_new h hname]
      rfl

/-- The name of an id that has none yet is the one that is asked for first. -/
theorem nameOf?_takeAll (h : registry.policy = .overwrite) (requests : List Request) (id : Text) :
    (registry.takeAll requests).nameOf? id
      = (registry.nameOf? id).or ((requests.find? (·.id = id)).map (·.name)) := by
  induction requests generalizing registry with
  | nil => exact (Option.or_none).symm
  | cons request requests ih =>
    have hrest := ih ((policy_take registry request).trans h)
    change ((registry.take request).takeAll requests).nameOf? id = _
    rw [hrest]
    by_cases hid : request.id = id
    · subst hid
      rw [List.find?_cons_of_pos (by simp)]
      cases hname : registry.nameOf? request.id with
      | some name => rw [take_known hname, hname]; rfl
      | none => rw [nameOf?_take_new h hname, if_pos rfl]; rfl
    · rw [List.find?_cons_of_neg (by simpa using hid)]
      cases hname : registry.nameOf? request.id with
      | some name => rw [take_known hname]
      | none => rw [nameOf?_take_new h hname, if_neg (Ne.symm hid)]

/-- The registry after some requests, where a newer locator takes an entry over. -/
def overwriting (requests : List Request) : Registry := takeAll { policy := .overwrite } requests

theorem locators_overwriting (requests : List Request) :
    (overwriting requests).locators
      = Ordered.ofPairs ((granted { policy := .overwrite } requests).map Request.entry) :=
  locators_takeAll rfl requests

/-- A registry, after some requests, in which the last request for a name has won. -/
structure LastWins (requests : List Request) : Prop where
  /-- A new id is bound under the very name that is asked for. -/
  bound : ∀ request, (overwriting requests).nameOf? request.id = none →
    (overwriting requests).answer request = .bound ⟨request.id, request.name, request.locator⟩
  /-- A request for an id that has a name changes nothing. -/
  refused : ∀ request name, (overwriting requests).nameOf? request.id = some name →
    (overwriting requests).answer request = .alreadyBound name
      ∧ (overwriting requests).take request = overwriting requests
  /-- An entry holds the locator of the last granted request for its name. -/
  last : ∀ name, (overwriting requests).locatorOf? name
    = ((granted { policy := .overwrite } requests).reverse.find? (·.name = name)).map
        fun request => expressionOf request.locator
  /-- The entries are in the order of the first granted requests for their names. -/
  order : Ordered.keys (overwriting requests).locators
    = ((granted { policy := .overwrite } requests).map (·.name)).eraseDups
  /-- A new name goes to the end. -/
  added : ∀ request, (overwriting requests).nameOf? request.id = none →
    request.name ∉ Ordered.keys (overwriting requests).locators →
    ((overwriting requests).take request).locators
      = (overwriting requests).locators ++ [(request.name, expressionOf request.locator)]
  /-- An entry that is taken over keeps its place, and all others stay as they are. -/
  replaced : ∀ request, (overwriting requests).nameOf? request.id = none →
    request.name ∈ Ordered.keys (overwriting requests).locators →
    ∃ before held after, (overwriting requests).locators = before ++ (request.name, held) :: after
      ∧ ((overwriting requests).take request).locators
        = before ++ (request.name, expressionOf request.locator) :: after
  /-- The name of an id is the one that was asked for first. -/
  first : ∀ id, (overwriting requests).nameOf? id = (requests.find? (·.id = id)).map (·.name)

/-- Where a newer locator takes an entry over, the last request for a name wins and nothing else
moves. -/
theorem last_request_wins (requests : List Request) : LastWins requests := by
  have hpolicy : (overwriting requests).policy = .overwrite := policy_takeAll _ requests
  have hlocators := locators_overwriting requests
  refine ⟨?bound, ?refused, ?last, ?order, ?added, ?replaced, ?first⟩
  case bound =>
    intro request hnew
    rw [answer_new hnew, storedName_overwrite hpolicy]
  case refused =>
    intro request name hknown
    exact ⟨answer_known hknown, take_known hknown⟩
  case last =>
    intro name
    rw [locatorOf?, hlocators, Ordered.lookup_ofPairs, ← List.map_reverse]
    exact Ordered.lookup_map_eq_find? name _ _ _
  case order =>
    rw [hlocators, Ordered.keys_ofPairs, List.map_map]
    rfl
  case added =>
    intro request hnew hname
    rw [locators_take_new hpolicy hnew, Ordered.put_of_not_mem hname]
  case replaced =>
    intro request hnew hname
    rw [locators_take_new hpolicy hnew]
    exact Ordered.put_of_mem hname _
  case first =>
    intro id
    exact nameOf?_takeAll rfl requests id

/-- A refused request for a name that has an entry leaves the entry alone, and a refused request for
a new name does not decide about its place. -/
example :
    let requests : List Request := [⟨['1'], "Login".toList, "//a".toList⟩,
      ⟨['1'], "Exit".toList, "//b".toList⟩, ⟨['2'], "Help".toList, "//c".toList⟩,
      ⟨['3'], "Exit".toList, "//d".toList⟩, ⟨['4'], "Login".toList, "//e".toList⟩,
      ⟨['2'], "Login".toList, "//f".toList⟩]
    (overwriting requests).locators = [("Login".toList, "xpath=//e".toList),
      ("Help".toList, "xpath=//c".toList), ("Exit".toList, "xpath=//d".toList)] := by
  decide +kernel

end StepRecorder.Registry
