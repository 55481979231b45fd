import StepRecorder.Text.Blank

/-!
Names of elements. A name is acceptable if it looks like an identifier: not empty, shorter than 40
characters and without blanks. A name comes from the oracle, from an attribute of the locator, or
from counting.
-/

namespace StepRecorder.Naming

/-- Acceptable names are shorter than this. -/
def nameLimit : Nat := 40

/-- Whether a name can stand in a script and in the registry. -/
def isAcceptable (name : Text) : Bool :=
  !name.isEmpty && name.length < nameLimit && !name.any Text.isBlank

/-- Where a name comes from. -/
inductive Source where
  | oracle
  | attributeValue
  | synthesized
  deriving Repr, DecidableEq

/-- The word for a source. -/
def Source.word : Source → Text
  | .oracle => "Oracle".toList
  | .attributeValue => "Attribute".toList
  | .synthesized => "Synthesized".toList

/-- A name and where it comes from. -/
structure Choice where
  name : Text
  source : Source
  deriving Repr, DecidableEq

end StepRecorder.Naming
