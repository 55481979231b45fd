import StepRecorder.Config
import StepRecorder.Notice
import StepRecorder.Oracle.Response
import StepRecorder.Oracle.Web
import StepRecorder.Text.Utf16

/-!
The oracle that asks a language model. Each question is one request, which is sent again only where
a redirect asks for that; whatever becomes of it, the answer is a name or a fault. The web is a
parameter, and so is the key, which comes from the environment.
-/

namespace StepRecorder

namespace Client

/-- Why a question was not answered. -/
inductive Fault where
  | unsendable
  | unanswered (url : Url)
  | lost (url : Url)
  | undecodable
  | status (code : Nat) (body : Text)
  | timeout
  | noText
  deriving Repr, DecidableEq

/-- The fault as an oracle tells it. -/
def Fault.told : Fault → OracleFault
  | .unsendable => .request "HTTP client error: builder error".toList
  | .unanswered url =>
    .request ("HTTP client error: error sending request for url (".toList ++ url.render ++ [')'])
  | .lost url =>
    .request ("HTTP client error: error following redirect for url (".toList ++ url.render ++ [')'])
  | .undecodable => .request "HTTP client error: error decoding response body".toList
  | .status code body =>
    .request ("Gemini returned status ".toList ++ Text.decimal code ++ ": ".toList ++ body)
  | .timeout => .timeout
  | .noText => .malformed "no text in response".toList

/-- Whether a status stands for success. -/
def isSuccess (status : Nat) : Bool := 200 ≤ status && status < 300

/-- What the reaction of a server at an address says. -/
def read (url : Url) : Reaction → Except Fault Text
  | .closed => .error (.unanswered url)
  | .silent => .error .timeout
  | .answered answer =>
    if !isSuccess answer.status then
      .error (.status answer.status (Text.decodeMarked (answer.body.getD [])))
    else
      match answer.body.bind Response.text? with
      | none => .error .undecodable
      | some [] => .error .noText
      | some text => .ok text

/-- What is heard where the way of a request ends. -/
def heard : Arrival → Except Fault Text
  | .unreached url isLate => .error (if isLate then .timeout else .unanswered url)
  | .reaction url reaction => read url reaction
  | .lost url => .error (.lost url)

/-- The question for the name of a locator: all that is sent for it, and the answer. -/
def ask [Idna] (client : Client) (web : Web) (earlier : List Sent) (locator : Text) :
    List Sent × OracleAnswer :=
  match client.request? locator with
  | none => ([], .error Fault.unsendable.told)
  | some request =>
    let (sent, arrival) := follow web maxRedirects earlier (.posted request)
    (sent, ((heard arrival).map Text.trim).mapError Fault.told)

/-- All that is sent for some questions, one after the other. -/
def askAll [Idna] (client : Client) (web : Web) (locators : List Text) : List Sent :=
  locators.foldl (fun earlier locator => earlier ++ (client.ask web earlier locator).1) []

/-- The answer to the question for the name of a locator, where a request leads to one reaction. -/
def answer [Idna] (client : Client) (react : Request → Reaction) (locator : Text) : OracleAnswer :=
  (client.ask (Server.web fun _ => react) [] locator).2

/-- The oracle behind a client and a server. -/
def oracle [Idna] (client : Client) (server : Server) : Oracle := fun asked locator =>
  (client.ask server.web (client.askAll server.web asked) locator).2

/-- The client of some settings, unless there is none or its key is missing. -/
def ofSettings (settings : OracleSettings) (key : Option Text) : Option Client × Notice :=
  if !settings.isEnabled then (none, .oracleDisabled)
  else
    match key with
    | none => (none, .keyMissing settings.keyVariable)
    | some key =>
      if (Text.trim key).isEmpty then (none, .keyMissing settings.keyVariable)
      else (some ⟨settings.endpoint, settings.model, key⟩, .oracleReady settings.model)

end Client
end StepRecorder
