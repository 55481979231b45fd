import StepRecorder.Event
import StepRecorder.Event.Pattern
import StepRecorder.Json.Literal

/-!
Recognition: the event of a line of the log. The kinds are tried in a fixed order, and of one kind
the leftmost place of the line counts, so a line shows at most one event.

    line ─▶ locator ─▶ element ─▶ click ─▶ target ─▶ typed ─▶ nothing
                               └─ passed over on responses ─┘

The driver logs every command twice, as a request and as a response. Clicks and targets are taken
from requests only, so that a command counts once.
-/

namespace StepRecorder.Event

/-- The mark of a response line. -/
def responseMark : Text := "<--".toList

/-- Whether a line is a response of the driver. -/
def isResponse (line : Text) : Bool := Text.occursIn responseMark line

/-- What a kind captures at one place of a line. -/
def capture? : EventKind → Text → Option Text
  | .locator => Pattern.locator?
  | .element => Pattern.element?
  | .click => Pattern.click?
  | .target => Pattern.target?
  | .typed => Pattern.typed?

/-- Whether a kind is taken from requests only. -/
def fromRequestOnly : EventKind → Bool
  | .click => true
  | .target => true
  | _ => false

/-- The text that a captured body stands for; the body itself where its escapes are malformed. -/
def unescape (body : Text) : Text := (Json.Literal.decode? body).getD body

/-- The text that an event of a kind carries for what it captured. Ids in paths are no literals. -/
def payloadOf (kind : EventKind) (captured : Text) : Text :=
  if fromRequestOnly kind then captured else unescape captured

/-- The event of one kind that a line shows. -/
def ofKind? (line : Text) (kind : EventKind) : Option Event :=
  if fromRequestOnly kind && isResponse line then none
  else (Text.firstMatch (capture? kind) line).map fun captured => ⟨kind, payloadOf kind captured⟩

/-- The event that a line shows. -/
def ofLine? (line : Text) : Option Event := EventKind.all.findSome? (ofKind? line)

end StepRecorder.Event
