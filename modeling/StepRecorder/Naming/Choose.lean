import StepRecorder.Naming.Fallback
import StepRecorder.Notice

/-!
Choosing a name: the reply of the oracle, if it is acceptable once its outer blanks are gone, and
the fallback in every other case.
-/

namespace StepRecorder.Naming

/-- The name of a locator for which the oracle gave `answer`, and what there is to tell. -/
def choose (answer : OracleAnswer) (locator : Text) (count : Nat) : Choice × List Notice :=
  match answer with
  | .ok reply =>
    let name := Text.trim reply
    if isAcceptable name then (⟨name, .oracle⟩, [])
    else (fallback locator count, [.replyRejected name locator])
  | .error .offline => (fallback locator count, [.oracleOffline])
  | .error fault => (fallback locator count, [.oracleFailed locator fault])

end StepRecorder.Naming
