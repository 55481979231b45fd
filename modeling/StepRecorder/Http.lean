import StepRecorder.Http.Body
import StepRecorder.Text.Octet

/-!
Web responses: what the bytes say that a server sends before it closes the connection. Heads that
only announce another one are passed over.
-/

namespace StepRecorder.Http

/-- What a server answers to a request. -/
structure Answer where
  status : Nat
  /-- Nothing if the body breaks off. -/
  body : Option Bytes
  deriving Repr, DecidableEq

/-- The answer in the bytes that a server has sent, unless there is none. -/
def Answer.ofBytes? (bytes : Bytes) : Option Answer := do
  let (head, rest) ← Head.final? (Text.ofOctets bytes)
  let extent ← Extent.ofHead? head
  some ⟨head.status, (extent.body? rest).map Text.octets⟩

end StepRecorder.Http
