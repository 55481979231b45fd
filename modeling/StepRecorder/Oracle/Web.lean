import StepRecorder.Http
import StepRecorder.Oracle.Request

/-!
The web, as it is found by who sends a request. A server answers, closes the connection or is
silent, or it leads to another address; that is followed, through a limited number of redirects.

    POST ─ 307, 308 ─────▶ the same POST, to the other address
    POST ─ 301, 302, 303 ─▶ a GET without a body, and only those from there on

All that is sent on the way is part of the result.
-/

namespace StepRecorder

/-- What a server does with a request. -/
inductive Reaction where
  | answered (answer : Http.Answer)
  /-- The connection is closed without an answer. -/
  | closed
  /-- There is no answer in time. -/
  | silent
  deriving Repr, DecidableEq

/-- What a server does that sends some bytes and closes the connection. -/
def Reaction.ofBytes (bytes : Bytes) : Reaction :=
  match Http.Answer.ofBytes? bytes with
  | some answer => .answered answer
  | none => .closed

/-- A server that leads nowhere else, as a function of the earlier requests and the one it has to
react to. -/
abbrev Server := List Request → Request → Reaction

/-- The statuses that lead to another address: 301, 302, 303, 307 and 308. -/
inductive Redirection where
  | moved
  | found
  | seeOther
  | temporary
  | permanent
  deriving Repr, DecidableEq

/-- Whether what was posted is to be posted again. -/
def Redirection.repeats : Redirection → Bool
  | .temporary | .permanent => true
  | .moved | .found | .seeOther => false

/-- What is sent to an address: a request that is posted, or one without a body. -/
inductive Sent where
  | posted (request : Request)
  | fetched (url : Url) (key : Text)
  deriving Repr, DecidableEq

namespace Sent

def url : Sent → Url
  | .posted request => request.url
  | .fetched url _ => url

/-- The request, if one is posted. -/
def posted? : Sent → Option Request
  | .posted request => some request
  | .fetched _ _ => none

/-- What is sent where a redirect leads. The key goes along in any case. -/
def redirected (sent : Sent) (redirection : Redirection) (url : Url) : Sent :=
  match sent with
  | .posted request =>
    if redirection.repeats then .posted { request with url } else .fetched url request.key
  | .fetched _ key => .fetched url key

end Sent

/-- What comes back. -/
inductive Reply where
  /-- No connection could be made, or none in time, and nothing was sent. -/
  | unreached (isLate : Bool)
  | reaction (reaction : Reaction)
  /-- Another address is to be asked. -/
  | elsewhere (redirection : Redirection) (url : Url)
  deriving Repr, DecidableEq

/-- The web, as a function of all that was sent before and of what is sent now. -/
abbrev Web := List Sent → Sent → Reply

/-- The web with nothing but a server in it. -/
def Server.web (server : Server) : Web := fun earlier sent =>
  match sent with
  | .posted request => .reaction (server (earlier.filterMap Sent.posted?) request)
  | .fetched _ _ => .reaction .closed

/-- Where the way of a request ends. -/
inductive Arrival where
  | unreached (url : Url) (isLate : Bool)
  | reaction (url : Url) (reaction : Reaction)
  /-- One more redirect would have had to be followed from here. -/
  | lost (url : Url)
  deriving Repr, DecidableEq

/-- How many redirects are followed. -/
def maxRedirects : Nat := 10

/-- Sends something and follows where it leads, through a limited number of redirects: all that is
sent, and where that ends. -/
def follow (web : Web) : Nat → List Sent → Sent → List Sent × Arrival
  | redirects, earlier, sent =>
    match web earlier sent, redirects with
    | .unreached isLate, _ => ([], .unreached sent.url isLate)
    | .reaction reaction, _ => ([sent], .reaction sent.url reaction)
    | .elsewhere _ _, 0 => ([sent], .lost sent.url)
    | .elsewhere redirection url, redirects + 1 =>
      let (more, arrival) :=
        follow web redirects (earlier ++ [sent]) (sent.redirected redirection url)
      (sent :: more, arrival)

end StepRecorder
