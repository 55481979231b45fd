import Mathlib.Data.List.Induction
import StepRecorder.Oracle.Client

/-!
What is sent when a request is followed. The first is the request itself, and each further one is
what a redirect of the one before asks for; so where nothing is redirected, one request is all.

    earlier …  [ POST u, POST v, GET w ]
                 ▲        ▲       ▲
                 request  308     303

Main statements: `follow_of_reaction`, `isLed_follow` and `length_follow_le`; for a client,
`Client.ask_of_reaction`, and `Client.oracle_eq_answer` for the oracle behind a server.
-/

namespace StepRecorder

/-- Whether all but the first are what a redirect of the one before asks for. -/
def IsLed (web : Web) (earlier sents : List Sent) : Prop :=
  ∀ before sent next behind, sents = before ++ sent :: next :: behind →
    ∃ redirection url, web (earlier ++ before) sent = .elsewhere redirection url
      ∧ next = sent.redirected redirection url

section Follow

variable {web : Web} {earlier : List Sent} {sent : Sent}

theorem follow_of_reaction {reaction : Reaction} (h : web earlier sent = .reaction reaction)
    (redirects : Nat) :
    follow web redirects earlier sent = ([sent], .reaction sent.url reaction) := by
  unfold follow
  rw [h]

theorem follow_of_unreached {isLate : Bool} (h : web earlier sent = .unreached isLate)
    (redirects : Nat) :
    follow web redirects earlier sent = ([], .unreached sent.url isLate) := by
  unfold follow
  rw [h]

theorem follow_of_elsewhere {redirection : Redirection} {url : Url}
    (h : web earlier sent = .elsewhere redirection url) (redirects : Nat) :
    follow web (redirects + 1) earlier sent
      = let rest := follow web redirects (earlier ++ [sent]) (sent.redirected redirection url)
        (sent :: rest.1, rest.2) := by
  conv => lhs; unfold follow
  rw [h]

/-- The first that is sent is what was to be sent. -/
theorem follow_cases (web : Web) (redirects : Nat) (earlier : List Sent) (sent : Sent) :
    (follow web redirects earlier sent).1 = []
      ∨ ∃ more, (follow web redirects earlier sent).1 = sent :: more := by
  fun_cases follow web redirects earlier sent with
  | case1 => exact Or.inl rfl
  | case2 | case3 => exact Or.inr ⟨[], rfl⟩
  | case4 => exact Or.inr ⟨_, rfl⟩

theorem length_follow_le (web : Web) (redirects : Nat) (earlier : List Sent) (sent : Sent) :
    (follow web redirects earlier sent).1.length ≤ redirects + 1 := by
  fun_induction follow web redirects earlier sent with
  | case1 | case2 | case3 => simp
  | case4 earlier sent redirection url redirects hreply more arrival hmore ih =>
    rw [hmore] at ih
    exact Nat.succ_le_succ ih

theorem isLed_nil (web : Web) (earlier : List Sent) : IsLed web earlier [] := by
  intro before sent next behind heq
  simp at heq

theorem isLed_singleton (web : Web) (earlier : List Sent) (sent : Sent) :
    IsLed web earlier [sent] := by
  intro before first next behind heq
  have hlength := congrArg List.length heq
  simp only [List.length_append, List.length_cons, List.length_nil] at hlength
  omega

/-- A redirect, and what it leads to. -/
theorem IsLed.cons {redirection : Redirection} {url : Url} {more : List Sent}
    (hreply : web earlier sent = .elsewhere redirection url)
    (hfirst : more = [] ∨ ∃ rest, more = sent.redirected redirection url :: rest)
    (hmore : IsLed web (earlier ++ [sent]) more) : IsLed web earlier (sent :: more) := by
  intro before first next behind heq
  cases before with
  | nil =>
    obtain ⟨rfl, rfl⟩ := List.cons.inj heq
    obtain hnone | ⟨rest, hrest⟩ := hfirst
    · cases hnone
    · obtain rfl := (List.cons.inj hrest).1
      exact ⟨redirection, url, by rw [List.append_nil, hreply], rfl⟩
  | cons found before =>
    obtain ⟨rfl, htail⟩ := List.cons.inj heq
    obtain ⟨redirection, url, hnext⟩ := hmore before first next behind htail
    rw [List.append_assoc, List.singleton_append] at hnext
    exact ⟨redirection, url, hnext⟩

/-- Nothing is sent but what was to be sent and what redirects ask for. -/
theorem isLed_follow (web : Web) (redirects : Nat) (earlier : List Sent) (sent : Sent) :
    IsLed web earlier (follow web redirects earlier sent).1 := by
  fun_induction follow web redirects earlier sent with
  | case1 redirects earlier => exact isLed_nil web earlier
  | case2 redirects earlier sent | case3 earlier sent => exact isLed_singleton web earlier sent
  | case4 earlier sent redirection url redirects hreply more arrival hmore ih =>
    have hfirst := follow_cases web redirects (earlier ++ [sent]) (sent.redirected redirection url)
    rw [hmore] at hfirst ih
    exact .cons hreply hfirst ih

/-- What redirects keep holds of all that is sent, if it holds of the first. -/
theorem forall_mem_of_isLed {motive : Sent → Prop}
    (step : ∀ sent redirection url, motive sent → motive (sent.redirected redirection url))
    {more : List Sent} (h : motive sent) (hled : IsLed web earlier (sent :: more)) :
    ∀ other ∈ sent :: more, motive other := by
  induction more generalizing earlier sent with
  | nil => simpa using h
  | cons next more ih =>
    obtain ⟨redirection, url, -, hnext⟩ := hled [] sent next more rfl
    have hmotive : motive next := hnext ▸ step sent redirection url h
    have hrest : IsLed web (earlier ++ [sent]) (next :: more) := by
      intro before first second behind heq
      rw [List.append_assoc]
      exact hled (sent :: before) first second behind (by rw [heq]; rfl)
    exact List.forall_mem_cons.mpr ⟨h, ih hmotive hrest⟩

end Follow

namespace Client

variable [Idna] {client : Client} {web : Web} {earlier : List Sent} {locator : Text}
  {request : Request}

theorem ask_of_none (h : client.request? locator = none) (web : Web) (earlier : List Sent) :
    client.ask web earlier locator = ([], .error Fault.unsendable.told) := by
  rw [ask, h]

/-- All that is sent for a question is what comes of following its request. -/
theorem ask_fst (h : client.request? locator = some request) (web : Web) (earlier : List Sent) :
    (client.ask web earlier locator).1 = (follow web maxRedirects earlier (.posted request)).1 := by
  rw [ask, h]

/-- Where the request is not redirected, it is all that is sent, and the answer is read from the
reaction to it. -/
theorem ask_of_reaction (h : client.request? locator = some request) {reaction : Reaction}
    (hreaction : web earlier (.posted request) = .reaction reaction) :
    client.ask web earlier locator
      = ([.posted request], ((read request.url reaction).map Text.trim).mapError Fault.told) := by
  rw [ask, h]
  dsimp only
  rw [follow_of_reaction hreaction]
  rfl

theorem askAll_append (web : Web) (asked : List Text) (locator : Text) :
    client.askAll web (asked ++ [locator])
      = client.askAll web asked ++ (client.ask web (client.askAll web asked) locator).1 := by
  rw [askAll, List.foldl_append]
  rfl

/-- A server that leads nowhere else gets one request for each question that can be sent. -/
theorem askAll_server (server : Server) (asked : List Text) :
    client.askAll server.web asked = (asked.filterMap client.request?).map .posted := by
  induction asked using List.reverseRecOn with
  | nil => rfl
  | append_singleton asked locator ih =>
    rw [askAll_append, List.filterMap_append, List.map_append, ih]
    cases hrequest : client.request? locator with
    | none => simp [ask_of_none hrequest, hrequest]
    | some request =>
      have hask : (client.ask server.web ((asked.filterMap client.request?).map .posted) locator).1
          = [.posted request] := by
        rw [ask_of_reaction hrequest rfl]
      simp [hask, hrequest]

theorem posted_askAll_server (server : Server) (asked : List Text) :
    (client.askAll server.web asked).filterMap Sent.posted? = asked.filterMap client.request? := by
  rw [askAll_server, List.filterMap_map]
  exact List.filterMap_some

/-- The oracle behind a server answers what comes of the reaction to one request. -/
theorem oracle_eq_answer (client : Client) (server : Server) (asked : List Text) (locator : Text) :
    client.oracle server asked locator
      = client.answer (server (asked.filterMap client.request?)) locator := by
  rw [oracle, answer]
  cases hrequest : client.request? locator with
  | none => rw [ask_of_none hrequest, ask_of_none hrequest]
  | some request =>
    rw [ask_of_reaction hrequest (rfl : server.web _ _ = _), posted_askAll_server,
      ask_of_reaction hrequest (rfl : Server.web _ [] _ = _)]

end Client
end StepRecorder
