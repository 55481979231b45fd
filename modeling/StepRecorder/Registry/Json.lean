import StepRecorder.Json.Reader
import StepRecorder.Ordered

/-!
The entries of a registry as a JSON document: an object with a member for each name, in order.
-/

namespace StepRecorder.Registry

/-- The document of some entries, with one entry a line. -/
def render (entries : List (Text × Text)) : Text :=
  (Json.Value.ofMembers (entries.map fun entry => (entry.1, .ofText entry.2))).renderPretty 0

/-- The entries in an object whose members are all texts. Of members with one name, the last gives
the value and the first the place. -/
def entriesOf? : Json.Value → Option (List (Text × Text))
  | .object members => do
    let pairs ← members.mapM fun member => do
      some (← Json.Literal.decode? member.1, ← member.2.text?)
    some (Ordered.ofPairs pairs)
  | _ => none

/-- The entries in the text of a document. -/
def ofText? (text : Text) : Option (List (Text × Text)) := (Json.Value.ofText? text).bind entriesOf?

end StepRecorder.Registry
