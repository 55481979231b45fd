import StepRecorder.Text.Numeral
import StepRecorder.Yaml.Node

/-!
Values out of YAML nodes. A record is a mapping with known keys, each given once at most; what
stands under other keys is not looked at. A text is any scalar; numbers and truth values have to be
plain, or literal with the tag that says what they are.
-/

namespace StepRecorder.Yaml

namespace Scalar

/-- Whether a scalar that is no text can be written in this way. -/
def isBare (kind : String) (style : Style) (tag : Option Bytes) : Bool :=
  style = .plain || (style = .literal && tag = some (Tag.common ++ Text.encode kind.toList))

/-- A plain scalar that stands for nothing. -/
def isNull (text : Text) : Bool :=
  text.isEmpty || text = ['~'] || text = "null".toList || text = "Null".toList ||
    text = "NULL".toList

/-- A truth value. -/
def bool? (text : Text) : Option Bool :=
  if text = "true".toList || text = "True".toList || text = "TRUE".toList then some true
  else if text = "false".toList || text = "False".toList || text = "FALSE".toList then some false
  else none

/-- The value of digits in a base, if there are any and it fits 64 bits. -/
def wordIn? (base : Nat) (digits : Text) : Option Nat :=
  if digits.isEmpty then none
  else (Text.valueIn? base digits).bind fun n => if n < Text.wordBound then some n else none

/-- The bases that a numeral can announce. -/
def bases : List (Text × Nat) := [("0x".toList, 16), ("0o".toList, 8), ("0b".toList, 2)]

/-- A number of 64 bits. A zero before further digits is not allowed. -/
def word? (text : Text) : Option Nat :=
  let digits := if text.head? = some '+' then text.drop 1 else text
  match bases.findSome? fun base => (Text.after? base.1 digits).map fun rest => (base.2, rest) with
  | some (base, rest) => wordIn? base rest
  | none => if 1 < digits.length && digits.head? = some '0' then none else wordIn? 10 digits

end Scalar

namespace Document

/-- The text of a node. -/
def text? (document : Document) (node : Node) : Option Text :=
  match document.resolve? node with
  | some (.scalar _ _ text) => some text
  | _ => none

/-- The number of a node. -/
def word? (document : Document) (node : Node) : Option Nat :=
  match document.resolve? node with
  | some (.scalar style tag text) =>
    if Scalar.isBare "int" style tag then Scalar.word? text else none
  | _ => none

/-- The truth value of a node. -/
def bool? (document : Document) (node : Node) : Option Bool :=
  match document.resolve? node with
  | some (.scalar style tag text) =>
    if Scalar.isBare "bool" style tag then Scalar.bool? text else none
  | _ => none

/-- The word of a tag that is a text and not one of YAML's own. -/
def ownTag? (tag : Option Bytes) : Option Text :=
  match tag.bind Text.decode? with
  | some ['!'] => some ['!']
  | some ('!' :: word) => some word
  | _ => none

/-- The word that a node chooses: its own tag, with nothing beside it, or its text. -/
def word (document : Document) (node : Node) : Option Text :=
  match document.resolve? node with
  | some (.scalar style tag text) =>
    match ownTag? tag with
    | some word => if style = .plain && Scalar.isNull text then some word else none
    | none => some text
  | _ => none

/-- The choice of a node among some words. -/
def choice? {α : Type} (choices : List (Text × α)) (document : Document) (node : Node) : Option α :=
  (document.word node).bind fun word => choices.lookup word

/-- The known members among some entries. -/
def knownOf (document : Document) (known : List Text) :
    List (Node × Node) → Option (List (Text × Node))
  | [] => some []
  | (key, value) :: entries => do
    let key ← document.text? key
    let members ← knownOf document known entries
    if key ∉ known then some members
    else if (members.lookup key).isSome then none
    else some ((key, value) :: members)

/-- The known members of a record. A record that is left empty has none. -/
def members? (document : Document) (known : List Text) (node : Node) :
    Option (List (Text × Node)) :=
  match document.resolve? node with
  | some (.mapping entries) => document.knownOf known entries
  | some (.scalar .plain _ []) => some []
  | _ => none

/-- The value of a member, or what stands for it when it is missing. -/
def member {α : Type} (read : Node → Option α) (default : α) (key : Text)
    (members : List (Text × Node)) : Option α :=
  match members.lookup key with
  | some node => read node
  | none => some default

end Document
end StepRecorder.Yaml
