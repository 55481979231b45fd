import StepRecorder.Json.Reader
import StepRecorder.Text.Octet

/-!
JSON documents as bytes. Outside of string literals a document is plain ASCII, so it is read byte by
byte. A literal that is no UTF-8 makes no difference as long as nobody asks for its text: its body
is replaced by one that stands for no text.
-/

namespace StepRecorder.Json

/-- A body that stands for no text. -/
def noBody : Text := ['\\']

/-- The body that some octets stand for. -/
def bodyOf (body : Text) : Text := (Text.decode? (Text.octets body)).getD noBody

namespace Value

mutual

/-- A document of octets as a document of characters. -/
def decoded : Value → Value
  | .string body => .string (bodyOf body)
  | .array items => .array (decodedItems items)
  | .object members => .object (decodedMembers members)
  | value => value

/-- Items of octets as items of characters. -/
def decodedItems : List Value → List Value
  | [] => []
  | item :: items => decoded item :: decodedItems items

/-- Members of octets as members of characters. -/
def decodedMembers : List (Text × Value) → List (Text × Value)
  | [] => []
  | (name, value) :: members => (bodyOf name, decoded value) :: decodedMembers members

end

/-- The document that some bytes consist of. -/
def ofBytes? (bytes : Bytes) : Option Value := (ofText? (Text.ofOctets bytes)).map decoded

end Value
end StepRecorder.Json
