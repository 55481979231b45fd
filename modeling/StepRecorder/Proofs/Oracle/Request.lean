import Mathlib.Data.List.Forall2
import StepRecorder.Proofs.Json.Render
import StepRecorder.Proofs.Oracle.Web

/-!
What a client sends. Each question is one POST, whose body is a document with the question in it and
nothing else:

    {"contents": [{"parts": [{"text": "Return a ... XPath: //a[@name='Ok']"}]}]}

The document is read back from the body, whatever characters the locator holds, so the locator is
known from the body. A redirect can ask for the POST once more, and then it is the same one. Slashes
at the end of the endpoint make no difference.

Where the address of the model is none, or the key cannot be sent, nothing is sent.

Main statement: `each_question_is_one_request_with_its_locator`.
-/

namespace StepRecorder

namespace Request

/-- A document with a question in it, and nothing else. -/
def Asks (document : Json.Value) (question : Text) : Prop :=
  ∃ body, Json.Literal.Spells body question
    ∧ document = .object [("contents".toList,
      .array [.object [("parts".toList, .array [.object [("text".toList, .string body)]])]])]

/-- A request of a client for the name of a locator. -/
structure Carries (client : Client) (url : Url) (locator : Text) (request : Request) : Prop where
  url : request.url = url
  key : request.key = client.key
  body : ∃ document, Json.Value.ofText? request.body = some document
    ∧ Asks document (prompt locator)

theorem isSpelled_member {name : String} {value : Json.Value} (h : value.IsSpelled) :
    (Json.Value.ofMembers [(name.toList, value)]).IsSpelled := by
  refine .object ?_ ?_
  · rintro member hmember
    rw [List.mem_singleton.mp hmember]
    exact ⟨_, Json.Literal.spells_encode name.toList⟩
  · rintro member hmember
    rw [List.mem_singleton.mp hmember]
    exact h

theorem isSpelled_item {value : Json.Value} (h : value.IsSpelled) :
    (Json.Value.array [value]).IsSpelled := by
  refine .array fun item hitem => ?_
  rw [List.mem_singleton.mp hitem]
  exact h

theorem isSpelled_document (question : Text) : (document question).IsSpelled :=
  isSpelled_member (isSpelled_item (isSpelled_member (isSpelled_item (isSpelled_member
    (.string (Json.Literal.spells_encode question))))))

theorem asks_document (question : Text) : Asks (document question) question := by
  refine ⟨_, Json.Literal.spells_encode question, ?_⟩
  have hnames : ∀ name ∈ ["contents".toList, "parts".toList, "text".toList],
      Json.Literal.encode name = name := by
    decide +kernel
  simp only [document, Json.Value.ofMembers, Json.Value.ofText, List.map_cons, List.map_nil]
  rw [hnames _ (by simp), hnames _ (by simp), hnames _ (by simp)]

/-- The body of a string stands for one text. -/
theorem Asks.unique {document : Json.Value} {question other : Text} (h : Asks document question)
    (h' : Asks document other) : question = other := by
  obtain ⟨body, hspells, rfl⟩ := h
  obtain ⟨body', hspells', hsame⟩ := h'
  obtain rfl : body = body' := by simpa using hsame
  have hdecode := Json.Literal.decode?_of_spells hspells
  exact Option.some.inj (hdecode.symm.trans (Json.Literal.decode?_of_spells hspells'))

/-- The locator is known from the body. -/
theorem Carries.locator_unique {client client' : Client} {url url' : Url}
    {locator locator' : Text} {request request' : Request} (h : Carries client url locator request)
    (h' : Carries client' url' locator' request') (hbody : request.body = request'.body) :
    locator = locator' := by
  obtain ⟨document, hdocument, hasks⟩ := h.body
  obtain ⟨document', hdocument', hasks'⟩ := h'.body
  rw [hbody] at hdocument
  obtain rfl := Option.some.inj (hdocument.symm.trans hdocument')
  exact List.append_cancel_left (hasks.unique hasks')

end Request

namespace Client

variable {client : Client} {web : Web} {earlier : List Sent} {locator : Text} {request : Request}

/-- Whether what is sent, if it is posted, is a request but for the address. -/
def IsCopy (request : Request) (sent : Sent) : Prop :=
  ∀ other, sent = .posted other → other.key = request.key ∧ other.body = request.body

theorem IsCopy.redirected {sent : Sent} (h : IsCopy request sent) (redirection : Redirection)
    (url : Url) : IsCopy request (sent.redirected redirection url) := by
  rintro other hother
  cases sent with
  | fetched url key => cases hother
  | posted found =>
    simp only [Sent.redirected] at hother
    split at hother
    · obtain rfl := Sent.posted.inj hother
      exact h found rfl
    · cases hother

/-- The slashes at the end of an endpoint are passed over. -/
theorem address_append_slashes (client : Client) (n : Nat) :
    ({ client with endpoint := client.endpoint ++ List.replicate n '/' } : Client).address
      = client.address := by
  have hslashes : ∀ c ∈ List.replicate n '/', decide (c = '/') = true := by
    intro c hc
    rw [List.eq_of_mem_replicate hc]
    rfl
  rw [address, address, List.reverse_append, List.reverse_replicate,
    List.dropWhile_append_of_pos hslashes]

section Asking

variable [Idna]

/-- A question is a request where the address of the model and the key are good. -/
theorem request?_eq_some_iff :
    client.request? locator = some request
      ↔ ∃ url, Url.ofText? client.address = some url ∧ Request.isSendable client.key = true
        ∧ request = ⟨url, client.key, (Request.document (prompt locator)).render⟩ := by
  rw [request?, Option.bind_eq_bind, Option.bind_eq_some_iff]
  simp only [Option.ite_none_right_eq_some, Option.some.injEq, @eq_comm _ _ request]

theorem carries_of_request? (h : client.request? locator = some request) :
    Request.Carries client request.url locator request := by
  obtain ⟨url, -, -, rfl⟩ := request?_eq_some_iff.mp h
  refine ⟨rfl, rfl, Request.document (prompt locator), ?_, Request.asks_document _⟩
  exact Json.Value.ofText?_render (Request.isSpelled_document _)

/-- Nothing is sent for a question, or its request, and then whatever redirects ask for. -/
theorem ask_cases (h : client.request? locator = some request) (web : Web) (earlier : List Sent) :
    (client.ask web earlier locator).1 = []
      ∨ ∃ more, (client.ask web earlier locator).1 = .posted request :: more := by
  rw [ask_fst h]
  exact follow_cases ..

theorem isLed_ask (client : Client) (web : Web) (earlier : List Sent) (locator : Text) :
    IsLed web earlier (client.ask web earlier locator).1 := by
  cases hrequest : client.request? locator with
  | none =>
    rw [ask_of_none hrequest]
    exact isLed_nil web earlier
  | some request =>
    rw [ask_fst hrequest]
    exact isLed_follow web maxRedirects earlier (.posted request)

/-- All that is posted for a question is its request, be it to other addresses. -/
theorem exists_of_posted {other : Request}
    (h : .posted other ∈ (client.ask web earlier locator).1) :
    ∃ request, client.request? locator = some request ∧ other.key = request.key
      ∧ other.body = request.body := by
  cases hrequest : client.request? locator with
  | none =>
    rw [ask_of_none hrequest] at h
    cases h
  | some request =>
    have hled := client.isLed_ask web earlier locator
    have hfirst : IsCopy request (.posted request) := by
      rintro found hfound
      obtain rfl := Sent.posted.inj hfound
      exact ⟨rfl, rfl⟩
    rcases ask_cases hrequest web earlier with hnone | ⟨more, hmore⟩
    · rw [hnone] at h
      cases h
    · rw [hmore] at h hled
      have hcopies := forall_mem_of_isLed
        (fun _ redirection url hcopy => hcopy.redirected redirection url) hfirst hled
      exact ⟨request, rfl, hcopies _ h other rfl⟩

theorem carries_of_posted {other : Request}
    (h : .posted other ∈ (client.ask web earlier locator).1) :
    Request.Carries client other.url locator other := by
  obtain ⟨request, hrequest, hkey, hbody⟩ := exists_of_posted h
  have hcarries := carries_of_request? hrequest
  exact ⟨rfl, hkey.trans hcarries.key, hbody ▸ hcarries.body⟩

/-- Where nothing is redirected, each question adds one request to what is sent. -/
theorem exists_requests_askAll {url : Url}
    (hgood : ∀ locator, ∃ request, client.request? locator = some request
      ∧ Request.Carries client url locator request)
    (hweb : ∀ earlier sent, ∃ reaction, web earlier sent = .reaction reaction)
    (asked : List Text) :
    ∃ requests, client.askAll web asked = requests.map .posted
      ∧ List.Forall₂ (Request.Carries client url) asked requests := by
  induction asked using List.reverseRecOn with
  | nil => exact ⟨[], rfl, .nil⟩
  | append_singleton asked locator ih =>
    obtain ⟨requests, hsent, hcarry⟩ := ih
    obtain ⟨request, hrequest, hcarries⟩ := hgood locator
    obtain ⟨reaction, hreaction⟩ := hweb (client.askAll web asked) (.posted request)
    refine ⟨requests ++ [request], ?_, List.rel_append hcarry (.cons hcarries .nil)⟩
    rw [askAll_append, ask_of_reaction hrequest hreaction, hsent, List.map_append]
    rfl

/-- Where the address of the model and the key are good, each question is one POST. Its body is the
document that asks for the locator and nothing else. If the server reacts to it, it is all that is
sent, and the answer is read from that reaction; if the server cannot be reached, nothing is sent;
and if it leads elsewhere, at most ten more follow, each of them what the redirect before it asks
for, and whatever is posted carries the locator as the first POST does. So where nothing is
redirected, some questions are as many POSTs. Other locators have other bodies, and slashes at the
end of the endpoint change nothing. -/
theorem each_question_is_one_request_with_its_locator (client : Client) :
    (∀ url, Url.ofText? client.address = some url → Request.isSendable client.key = true →
      (∀ locator, ∃ request, Request.Carries client url locator request
        ∧ ∀ web earlier, let sents := (client.ask web earlier locator).1
          (∀ reaction, web earlier (.posted request) = .reaction reaction →
            client.ask web earlier locator
              = ([.posted request], ((read url reaction).map Text.trim).mapError Fault.told))
          ∧ (∀ isLate, web earlier (.posted request) = .unreached isLate → sents = [])
          ∧ (sents = [] ∨ ∃ more, sents = .posted request :: more)
          ∧ IsLed web earlier sents ∧ sents.length ≤ maxRedirects + 1
          ∧ ∀ other, .posted other ∈ sents → Request.Carries client other.url locator other)
      ∧ ∀ web, (∀ earlier sent, ∃ reaction, web earlier sent = .reaction reaction) →
          ∀ asked, ∃ requests, client.askAll web asked = requests.map .posted
            ∧ List.Forall₂ (Request.Carries client url) asked requests)
    ∧ (∀ web web' earlier earlier' locator locator' request request',
      .posted request ∈ (client.ask web earlier locator).1 →
      .posted request' ∈ (client.ask web' earlier' locator').1 →
      request.body = request'.body → locator = locator')
    ∧ ∀ n, ({ client with endpoint := client.endpoint ++ List.replicate n '/' } : Client).ask
      = client.ask := by
  refine ⟨fun url haddress hkey => ?_, ?_, fun n => ?_⟩
  · have hgood : ∀ locator, ∃ request, client.request? locator = some request
        ∧ Request.Carries client url locator request := by
      intro locator
      let request : Request := ⟨url, client.key, (Request.document (prompt locator)).render⟩
      have hsome : client.request? locator = some request :=
        request?_eq_some_iff.mpr ⟨url, haddress, hkey, rfl⟩
      exact ⟨request, hsome, carries_of_request? hsome⟩
    refine ⟨fun locator => ?_, fun web hweb => exists_requests_askAll hgood hweb⟩
    obtain ⟨request, hrequest, hcarries⟩ := hgood locator
    refine ⟨request, hcarries, fun web earlier => ?_⟩
    refine ⟨fun reaction hreaction => ?_, fun isLate hreply => ?_, ask_cases hrequest web earlier,
      client.isLed_ask web earlier locator, ?_, fun other => carries_of_posted⟩
    · rw [ask_of_reaction hrequest hreaction, hcarries.url]
    · rw [ask_fst hrequest, follow_of_unreached hreply]
    · rw [ask_fst hrequest]
      exact length_follow_le ..
  · intro web web' earlier earlier' locator locator' request request' h h' hbody
    exact (carries_of_posted h).locator_unique (carries_of_posted h') hbody
  · funext web earlier locator
    simp only [ask, request?, address_append_slashes]

end Asking

/-- A locator with quotes, a backslash, a control character and one beyond ASCII, for a server that
closes the connection. -/
theorem request_for_locator_with_quotes :
    let client : Client := ⟨"http://host/v1//".toList, "m".toList, "key".toList⟩
    let locator := "//a[@name=\x27\"\\\x01é\x27]".toList
    let url : Url :=
      ⟨"http://host".toList, "/v1/models/m:generateContent".toList, none, none⟩
    Url.ofText? client.address = some url ∧ Request.isSendable client.key = true
      ∧ ∃ request, Request.Carries client url locator request
        ∧ (client.ask (fun _ _ => .reaction .closed) [] locator).1 = [.posted request] := by
  intro client locator url
  have haddress : Url.ofText? client.address = some url := by decide +kernel
  have hkey : Request.isSendable client.key = true := by decide +kernel
  have hquestions := (each_question_is_one_request_with_its_locator client).1 url haddress hkey
  obtain ⟨request, hcarries, hasks⟩ := hquestions.1 locator
  have hask := (hasks (fun _ _ => .reaction .closed) []).1 .closed rfl
  exact ⟨haddress, hkey, request, hcarries, congrArg Prod.fst hask⟩

/-- Endpoints whose port is no number or whose host is none: nothing is sent. Neither is it to a
server that cannot be reached; and where a server asks for it, the request is posted twice. -/
theorem not_one_request_without_address_or_with_redirect :
    let key := "test-key".toList
    let model := "gemini-2.5-flash".toList
    (∀ endpoint ∈ ["http://SERVER:x".toList, "http://256.256.256.256".toList, "http://[x]".toList],
      Request.isSendable key = true
        ∧ ∀ web, (Client.mk endpoint model key).ask web [] "//A".toList
          = ([], .error Fault.unsendable.told))
    ∧ let client : Client := ⟨"http://SERVER".toList, model, key⟩
      let other : Url := ⟨"http://other".toList, ['/'], none, none⟩
      let web : Web := fun _ sent =>
        if sent.url = other then .reaction .closed else .elsewhere .permanent other
      (client.ask (fun _ _ => .unreached false) [] "//A".toList).1 = []
        ∧ ∃ request, (client.ask web [] "//A".toList).1
          = [.posted request, .posted { request with url := other }] := by
  intro key model
  refine ⟨fun endpoint hendpoint => ⟨by decide +kernel, fun web => ask_of_none ?_ web []⟩, ?_⟩
  · have haddress : ∀ endpoint ∈ ["http://SERVER:x".toList, "http://256.256.256.256".toList,
        "http://[x]".toList], Url.ofText? (Client.mk endpoint model key).address = none := by
      decide +kernel
    rw [request?, haddress endpoint hendpoint]
    rfl
  · intro client other web
    let url : Url :=
      ⟨"http://SERVER".toList, "/models/gemini-2.5-flash:generateContent".toList, none, none⟩
    have haddress : Url.ofText? client.address = some url := by decide +kernel
    let request : Request := ⟨url, key, (Request.document (prompt "//A".toList)).render⟩
    have hrequest : client.request? "//A".toList = some request :=
      request?_eq_some_iff.mpr ⟨url, haddress, by decide +kernel, rfl⟩
    have hfirst : web [] (.posted request) = .elsewhere .permanent other := if_neg (by decide)
    have hsecond : web [.posted request] (.posted { request with url := other })
        = .reaction .closed := if_pos rfl
    refine ⟨?_, request, ?_⟩
    · rw [ask_fst hrequest, follow_of_unreached rfl]
    · have hrest := follow_of_reaction hsecond 9
      rw [ask_fst hrequest, maxRedirects, follow_of_elsewhere hfirst]
      exact congrArg (Sent.posted request :: ·.1) hrest

end Client

end StepRecorder
