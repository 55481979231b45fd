import StepRecorder.Json.Literal
import StepRecorder.Json.Number

/-!
JSON documents as they are written: members in their order with repetitions kept, string literals
as bodies, numbers as literals. `depth` counts how many arrays and objects are open at once.

`render` writes a document without blanks, `renderPretty` with one member a line and two blanks
for each level.
-/

namespace StepRecorder.Json

/-- A document as written. -/
inductive Value where
  | null
  | bool (value : Bool)
  | number (written : Text)
  | string (body : Text)
  | array (items : List Value)
  | object (members : List (Text × Value))
  deriving Repr

namespace Value

/-- The string that stands for a text. -/
def ofText (text : Text) : Value := .string (Literal.encode text)

/-- The whole number as a value. -/
def ofNat (n : Nat) : Value := .number (Text.decimal n)

/-- The object whose members have the given names. -/
def ofMembers (members : List (Text × Value)) : Value :=
  .object (members.map fun member => (Literal.encode member.1, member.2))

/-- The text of a string, if it stands for one. -/
def text? : Value → Option Text
  | .string body => Literal.decode? body
  | _ => none

mutual

/-- How many arrays and objects are open at once. -/
def depth : Value → Nat
  | .array items => depthItems items + 1
  | .object members => depthMembers members + 1
  | _ => 0

/-- The greatest depth of some items. -/
def depthItems : List Value → Nat
  | [] => 0
  | item :: items => max (depth item) (depthItems items)

/-- The greatest depth of some members. -/
def depthMembers : List (Text × Value) → Nat
  | [] => 0
  | (_, value) :: members => max (depth value) (depthMembers members)

end

mutual

/-- Whether a reader that keeps every part of a document can keep it: each string stands for a
text, each number is in range. -/
def isSound : Value → Bool
  | .number written => Number.inRange written
  | .string body => (Literal.decode? body).isSome
  | .array items => isSoundItems items
  | .object members => isSoundMembers members
  | _ => true

/-- Whether all items are sound. -/
def isSoundItems : List Value → Bool
  | [] => true
  | item :: items => isSound item && isSoundItems items

/-- Whether all members are sound. -/
def isSoundMembers : List (Text × Value) → Bool
  | [] => true
  | (name, value) :: members =>
    (Literal.decode? name).isSome && isSound value && isSoundMembers members

end

mutual

/-- The document without blanks. -/
def render : Value → Text
  | .null => "null".toList
  | .bool value => if value then "true".toList else "false".toList
  | .number written => written
  | .string body => '"' :: body ++ ['"']
  | .array items => '[' :: renderItems items ++ [']']
  | .object members => '\x7b' :: renderMembers members ++ ['\x7d']

/-- Items with commas between them. -/
def renderItems : List Value → Text
  | [] => []
  | [item] => render item
  | item :: items => render item ++ ',' :: renderItems items

/-- Members with commas between them. -/
def renderMembers : List (Text × Value) → Text
  | [] => []
  | [(name, value)] => '"' :: name ++ '"' :: ':' :: render value
  | (name, value) :: members =>
    '"' :: name ++ '"' :: ':' :: render value ++ ',' :: renderMembers members

end

/-- The start of a line at a level. -/
def newline (level : Nat) : Text := '\n' :: List.replicate (2 * level) ' '

mutual

/-- The document with one item or member a line, at a level. -/
def renderPretty (level : Nat) : Value → Text
  | .array [] => "[]".toList
  | .object [] => ['\x7b', '\x7d']
  | .array items => '[' :: prettyItems (level + 1) items ++ newline level ++ [']']
  | .object members => '\x7b' :: prettyMembers (level + 1) members ++ newline level ++ ['\x7d']
  | value => render value

/-- Items on lines of their own. -/
def prettyItems (level : Nat) : List Value → Text
  | [] => []
  | [item] => newline level ++ renderPretty level item
  | item :: items => newline level ++ renderPretty level item ++ ',' :: prettyItems level items

/-- Members on lines of their own. -/
def prettyMembers (level : Nat) : List (Text × Value) → Text
  | [] => []
  | [(name, value)] => newline level ++ '"' :: name ++ "\": ".toList ++ renderPretty level value
  | (name, value) :: members =>
    newline level ++ '"' :: name ++ "\": ".toList ++ renderPretty level value ++
      ',' :: prettyMembers level members

end

end Value
end StepRecorder.Json
