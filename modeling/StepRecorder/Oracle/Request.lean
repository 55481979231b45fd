import StepRecorder.Json.Value
import StepRecorder.Oracle.Url
import StepRecorder.Text.Blank

/-!
The question for a name, as it is sent to a language model: where to, with which key, and the text
of the question within a JSON document.
-/

namespace StepRecorder

/-- A model behind a web address, and the key for it. -/
structure Client where
  endpoint : Text
  model : Text
  key : Text
  deriving Repr, DecidableEq

/-- What is posted to a server. -/
structure Request where
  url : Url
  key : Text
  body : Text
  deriving Repr, DecidableEq

/-- The question for the name of a locator. -/
def prompt (locator : Text) : Text :=
  ("Return a PascalCase variable name for this iOS Appium XPath. Append \x27Button\x27, " ++
    "\x27Field\x27, etc. Return ONLY the string. XPath: ").toList ++ locator

namespace Request

/-- The kind of document that is posted. -/
def contentType : Text := "application/json".toList

/-- The document with a question. -/
def document (question : Text) : Json.Value :=
  let part := Json.Value.ofMembers [("text".toList, .ofText question)]
  let content := Json.Value.ofMembers [("parts".toList, .array [part])]
  .ofMembers [("contents".toList, .array [content])]

/-- Whether a key can be sent: it has no control characters but tabs. -/
def isSendable (key : Text) : Bool :=
  key.all fun c => c = '\t' || (0x20 ≤ c.toNat && c.toNat ≠ 0x7F)

end Request

namespace Client

/-- The address of a model, as it is put together. -/
def address (client : Client) : Text :=
  (client.endpoint.reverse.dropWhile (· = '/')).reverse ++ "/models/".toList ++ client.model
    ++ ":generateContent".toList

/-- What is sent for the name of a locator, if it can be sent. -/
def request? [Idna] (client : Client) (locator : Text) : Option Request := do
  let url ← Url.ofText? client.address
  if Request.isSendable client.key then
    some ⟨url, client.key, (Request.document (prompt locator)).render⟩
  else none

end Client
end StepRecorder
