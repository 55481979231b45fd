import StepRecorder.Naming.Choose
import StepRecorder.Proofs.Oracle.Response
import StepRecorder.Proofs.Oracle.Web
import StepRecorder.Proofs.Text.Blank

/-!
The name that comes of asking a server. There is one way to a name of the server's own, and all
others lead to the name that is chosen without it:

    request sent ─▶ status 2xx ─▶ body a reply ─▶ text of the first candidate, acceptable ─▶ name
         │              │              │                  │
         └──────────────┴──────────────┴──────────────────┴──▶ fallback

Main statement: `chosen_name_is_clean_or_offline`.
-/

namespace StepRecorder

namespace Client

theorem isSuccess_iff {status : Nat} : isSuccess status = true ↔ 200 ≤ status ∧ status < 300 := by
  rw [isSuccess, Bool.and_eq_true, decide_eq_true_eq, decide_eq_true_eq]

/-- Only a success with a text is read as that text. -/
theorem read_eq_ok_iff {url : Url} {reaction : Reaction} {text : Text} :
    read url reaction = .ok text
      ↔ ∃ answer body, reaction = .answered answer ∧ isSuccess answer.status = true
        ∧ answer.body = some body ∧ Response.text? body = some text ∧ text ≠ [] := by
  constructor
  · intro h
    cases reaction with
    | closed | silent => cases h
    | answered answer =>
      cases hsuccess : isSuccess answer.status with
      | false => simp [read, hsuccess] at h
      | true =>
        simp only [read, hsuccess, Bool.not_true, Bool.false_eq_true, if_false] at h
        split at h
        · cases h
        · cases h
        next found hne hfound =>
          obtain rfl := Except.ok.inj h
          obtain ⟨body, hbody, htext⟩ := Option.bind_eq_some_iff.mp hfound
          exact ⟨answer, body, rfl, hsuccess, hbody, htext, hne⟩
  · rintro ⟨answer, body, rfl, hsuccess, hbody, htext, hne⟩
    simp only [read, hsuccess, Bool.not_true, Bool.false_eq_true, if_false, hbody,
      Option.bind_some, htext]

section Answer

variable [Idna]

/-- A server's answer that gives a name: a success, whose body is the document of a reply, whose
text is an acceptable name once its outer blanks are gone. -/
def IsClean (client : Client) (react : Request → Reaction) (locator name : Text) : Prop :=
  ∃ request answer body document reply,
    client.request? locator = some request ∧ react request = .answered answer
      ∧ 200 ≤ answer.status ∧ answer.status < 300 ∧ answer.body = some body
      ∧ Json.Value.ofBytes? body = some document ∧ Response.IsReply document reply
      ∧ name = Text.trim reply.text ∧ Naming.isAcceptable name = true

theorem answer_eq_ok_iff {client : Client} {react : Request → Reaction} {locator name : Text} :
    client.answer react locator = .ok name
      ↔ ∃ request text, client.request? locator = some request
        ∧ read request.url (react request) = .ok text ∧ name = Text.trim text := by
  cases hrequest : client.request? locator with
  | none =>
    rw [answer, ask_of_none hrequest]
    constructor
    · intro h
      cases h
    · rintro ⟨_, _, h, -⟩
      cases h
  | some request =>
    have hanswer : client.answer react locator
        = ((read request.url (react request)).map Text.trim).mapError Fault.told := by
      rw [answer, ask_of_reaction hrequest rfl]
    rw [hanswer]
    cases hread : read request.url (react request) with
    | error fault =>
      constructor
      · intro h
        cases h
      · rintro ⟨_, _, h, hok, -⟩
        obtain rfl := Option.some.inj h
        cases hread.symm.trans hok
    | ok text =>
      constructor
      · intro h
        exact ⟨request, text, rfl, hread, (Except.ok.inj h).symm⟩
      · rintro ⟨_, _, h, hok, rfl⟩
        obtain rfl := Option.some.inj h
        obtain rfl := Except.ok.inj (hread.symm.trans hok)
        rfl

/-- What the oracle replies that leads to an acceptable name is a clean answer, and only that. -/
theorem isClean_iff {client : Client} {react : Request → Reaction} {locator name : Text} :
    client.IsClean react locator name
      ↔ client.answer react locator = .ok name ∧ Naming.isAcceptable name = true := by
  rw [answer_eq_ok_iff]
  constructor
  · rintro ⟨request, answer, body, document, reply, hrequest, hreact, hlow, hhigh, hbody, hdocument,
      hreply, rfl, hacceptable⟩
    have hne : reply.text ≠ [] := by
      intro hempty
      rw [hempty] at hacceptable
      cases hacceptable
    have htext : Response.text? body = some reply.text :=
      Response.text?_eq_some_iff.mpr ⟨document, reply, hdocument, hreply, rfl⟩
    have hread : read request.url (react request) = .ok reply.text :=
      read_eq_ok_iff.mpr ⟨answer, body, hreact, isSuccess_iff.mpr ⟨hlow, hhigh⟩, hbody, htext, hne⟩
    exact ⟨⟨request, reply.text, hrequest, hread, rfl⟩, hacceptable⟩
  · rintro ⟨⟨request, text, hrequest, hread, rfl⟩, hacceptable⟩
    obtain ⟨answer, body, hreact, hsuccess, hbody, htext, -⟩ := read_eq_ok_iff.mp hread
    obtain ⟨hlow, hhigh⟩ := isSuccess_iff.mp hsuccess
    obtain ⟨document, reply, hdocument, hreply, rfl⟩ := Response.text?_eq_some_iff.mp htext
    exact ⟨request, answer, body, document, reply, hrequest, hreact, hlow, hhigh, hbody, hdocument,
      hreply, rfl, hacceptable⟩

/-- The client has trimmed what it replies. -/
theorem trim_of_answer_eq_ok {client : Client} {react : Request → Reaction} {locator name : Text}
    (h : client.answer react locator = .ok name) : Text.trim name = name := by
  obtain ⟨_, text, -, -, rfl⟩ := answer_eq_ok_iff.mp h
  exact Text.trim_trim text

end Answer
end Client

namespace Naming

variable {answer : OracleAnswer} {locator name : Text} {count : Nat}

theorem source_fallback_ne_oracle (locator : Text) (count : Nat) :
    (fallback locator count).source ≠ .oracle := by
  unfold fallback
  split
  · split <;> nofun
  · nofun

theorem choose_of_acceptable {reply : Text} (h : isAcceptable (Text.trim reply) = true) :
    (choose (.ok reply) locator count).1 = ⟨Text.trim reply, .oracle⟩ := by
  rw [choose, if_pos h]

theorem choose_of_not_acceptable
    (h : ∀ reply, answer = .ok reply → isAcceptable (Text.trim reply) = false) :
    (choose answer locator count).1 = fallback locator count := by
  cases answer with
  | ok reply => rw [choose, if_neg (by simp [h reply rfl])]
  | error fault => cases fault <;> rfl

/-- A name is the oracle's exactly if it is what is left of an acceptable reply. -/
theorem choose_eq_oracle_iff :
    (choose answer locator count).1 = ⟨name, .oracle⟩
      ↔ ∃ reply, answer = .ok reply ∧ name = Text.trim reply ∧ isAcceptable name = true := by
  constructor
  · intro h
    by_cases hreply : ∃ reply, answer = .ok reply ∧ isAcceptable (Text.trim reply) = true
    · obtain ⟨reply, rfl, hacceptable⟩ := hreply
      rw [choose_of_acceptable hacceptable] at h
      obtain rfl := congrArg Choice.name h
      exact ⟨reply, rfl, rfl, hacceptable⟩
    · have hfallback : (choose answer locator count).1 = fallback locator count :=
        choose_of_not_acceptable fun reply hanswer =>
          Bool.eq_false_iff.mpr fun hacceptable => hreply ⟨reply, hanswer, hacceptable⟩
      rw [hfallback] at h
      exact absurd (congrArg Choice.source h) (source_fallback_ne_oracle locator count)
  · rintro ⟨reply, rfl, rfl, hacceptable⟩
    exact choose_of_acceptable hacceptable

end Naming

/-- Whatever a server does, the name of a locator is the server's own exactly if it answers cleanly
with it, and in every other case the name that is chosen without the server. -/
theorem Naming.chosen_name_is_clean_or_offline [Idna] (client : Client) (server : Server)
    (asked : List Text) (locator : Text) (count : Nat) :
    let react := server (asked.filterMap client.request?)
    let choice := (choose (client.oracle server asked locator) locator count).1
    (∀ name, choice = ⟨name, .oracle⟩ ↔ client.IsClean react locator name)
    ∧ ((∀ name, ¬ client.IsClean react locator name) →
      choice = fallback locator count
        ∧ choice = (choose (Oracle.offline asked locator) locator count).1) := by
  intro react choice
  have horacle : client.oracle server asked locator = client.answer react locator :=
    client.oracle_eq_answer server asked locator
  have hclean : ∀ name, choice = ⟨name, .oracle⟩ ↔ client.IsClean react locator name := by
    intro name
    rw [Client.isClean_iff, choose_eq_oracle_iff, horacle]
    constructor
    · rintro ⟨reply, hanswer, rfl, hacceptable⟩
      have htrim := Client.trim_of_answer_eq_ok hanswer
      rw [htrim] at hacceptable ⊢
      exact ⟨hanswer, hacceptable⟩
    · rintro ⟨hanswer, hacceptable⟩
      exact ⟨name, hanswer, (Client.trim_of_answer_eq_ok hanswer).symm, hacceptable⟩
  refine ⟨hclean, fun hnone => ?_⟩
  have hfallback : choice = fallback locator count := by
    refine choose_of_not_acceptable fun reply hanswer => Bool.eq_false_iff.mpr fun hacceptable => ?_
    rw [horacle] at hanswer
    have htrim := Client.trim_of_answer_eq_ok hanswer
    rw [htrim] at hacceptable
    exact hnone reply (Client.isClean_iff.mpr ⟨hanswer, hacceptable⟩)
  exact ⟨hfallback, hfallback⟩

/-- A server whose first candidate has two parts with a text, and one that closes the connection. -/
theorem Naming.names_of_two_servers :
    let client : Client := ⟨"http://host/".toList, "m".toList, "key".toList⟩
    let locator := "//a[@name=\x27Ok\x27]".toList
    let body := Text.encode ("\x7b\"candidates\": [\x7b\"content\": \x7b\"parts\": ["
      ++ "[\" Login\"], \x7b\"text\": null\x7d, \x7b\"text\": \"Button\\n\"\x7d]"
      ++ "\x7d\x7d, [null]]\x7d").toList
    let answering : Server := fun _ _ => .answered ⟨200, some body⟩
    let closing : Server := fun _ _ => .closed
    client.IsClean (answering []) locator "LoginButton".toList
      ∧ (choose (client.oracle closing [] locator) locator 0).1
        = ⟨"Ok".toList, .attributeValue⟩ := by
  intro client locator body answering closing
  have hchoice : (choose (client.oracle answering [] locator) locator 0).1
      = ⟨"LoginButton".toList, .oracle⟩ := by
    decide +kernel
  have hnone : ∀ name, ¬ client.IsClean (closing []) locator name := by
    rintro name ⟨_, _, _, _, _, -, hclosed, -⟩
    cases hclosed
  have hfallback : fallback locator 0 = ⟨"Ok".toList, .attributeValue⟩ := by decide +kernel
  have hclosing := (chosen_name_is_clean_or_offline client closing [] locator 0).2 hnone
  exact ⟨((chosen_name_is_clean_or_offline client answering [] locator 0).1 _).mp hchoice,
    hclosing.1.trans hfallback⟩

end StepRecorder
