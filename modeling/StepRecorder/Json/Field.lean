import StepRecorder.Json.Value

/-!
Members by name. A record written as an object has its fields in any order and may have members
that are no fields of it; it may not name a field twice, and every name has to stand for a text.
-/

namespace StepRecorder.Json

/-- The members of an object with their names decoded, if all of them stand for texts. -/
def named? (members : List (Text × Value)) : Option (List (Text × Value)) :=
  members.mapM fun member => (Literal.decode? member.1).map fun name => (name, member.2)

/-- The values of the members of one name, in order. -/
def valuesOf (name : Text) (members : List (Text × Value)) : List Value :=
  (members.filter fun member => member.1 = name).map (·.2)

/-- A field that may be absent, but not be there twice. -/
def optional? (name : Text) (members : List (Text × Value)) : Option (Option Value) :=
  match valuesOf name members with
  | [] => some none
  | [value] => some (some value)
  | _ => none

/-- A field that has to be there exactly once. -/
def required? (name : Text) (members : List (Text × Value)) : Option Value :=
  match valuesOf name members with
  | [value] => some value
  | _ => none

end StepRecorder.Json
