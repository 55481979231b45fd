import StepRecorder.Text.Basic

/-!
The naming oracle: whatever is asked to suggest a name for a locator. Its answer may depend on what
it was asked before, and on nothing else, so an oracle is a function of the questions so far and the
locator.
-/

namespace StepRecorder

/-- Why an oracle gave no reply. -/
inductive OracleFault where
  | offline
  | request (detail : Text)
  | timeout
  | malformed (detail : Text)
  deriving Repr, DecidableEq

/-- The wording of a fault. -/
def OracleFault.message : OracleFault → Text
  | .offline => "naming oracle is offline".toList
  | .request detail => "naming request failed: ".toList ++ detail
  | .timeout => "naming request timed out".toList
  | .malformed detail => "malformed oracle response: ".toList ++ detail

/-- What an oracle answers. -/
abbrev OracleAnswer := Except OracleFault Text

/-- An oracle, as a function of the earlier questions and the locator it is asked for now. -/
abbrev Oracle := List Text → Text → OracleAnswer

namespace Oracle

/-- The oracle that never gives a name. -/
def offline : Oracle := fun _ _ => .error .offline

/-- The oracle with fixed answers, one for each question, which is offline once they are used up. -/
def ofAnswers (answers : List OracleAnswer) : Oracle := fun asked _ =>
  (answers[asked.length]?).getD (.error .offline)

end Oracle
end StepRecorder
