import StepRecorder.Json.Value

/-!
Reading JSON documents. `Value.ofText?` reads a whole text: one document, blanks around it, and
nothing else.

A document nests no deeper than it is long, so the length of the text bounds the recursion.
-/

namespace StepRecorder.Json

/-- The four characters that may stand between the parts of a document. -/
def isSpace (c : Char) : Bool := c = ' ' || c = '\n' || c = '\t' || c = '\r'

/-- A text without the spaces it starts with. -/
def skip (text : Text) : Text := text.dropWhile isSpace

namespace Value

mutual

/-- The document that a text starts with, and what follows it. -/
def scan? : Nat → Text → Option (Value × Text)
  | 0, _ => none
  | bound + 1, text =>
    match skip text with
    | '"' :: rest => (Literal.scan? rest).map fun found => (.string found.1, found.2)
    | '[' :: rest =>
      match skip rest with
      | ']' :: rest => some (.array [], rest)
      | rest => (scanItems? bound rest).map fun found => (.array found.1, found.2)
    | '\x7b' :: rest =>
      match skip rest with
      | '\x7d' :: rest => some (.object [], rest)
      | rest => (scanMembers? bound rest).map fun found => (.object found.1, found.2)
    | 'n' :: 'u' :: 'l' :: 'l' :: rest => some (.null, rest)
    | 't' :: 'r' :: 'u' :: 'e' :: rest => some (.bool true, rest)
    | 'f' :: 'a' :: 'l' :: 's' :: 'e' :: rest => some (.bool false, rest)
    | text => (Number.scan? text).map fun found => (.number found.1, found.2)

/-- The items up to a closing bracket, and what follows it. -/
def scanItems? : Nat → Text → Option (List Value × Text)
  | 0, _ => none
  | bound + 1, text => do
    let (item, rest) ← scan? bound text
    match skip rest with
    | ',' :: rest => (scanItems? bound rest).map fun found => (item :: found.1, found.2)
    | ']' :: rest => some ([item], rest)
    | _ => none

/-- The members up to a closing brace, and what follows it. -/
def scanMembers? : Nat → Text → Option (List (Text × Value) × Text)
  | 0, _ => none
  | bound + 1, text =>
    match skip text with
    | '"' :: rest => do
      let (name, rest) ← Literal.scan? rest
      match skip rest with
      | ':' :: rest =>
        let (value, rest) ← scan? bound rest
        match skip rest with
        | ',' :: rest =>
          (scanMembers? bound rest).map fun found => ((name, value) :: found.1, found.2)
        | '\x7d' :: rest => some ([(name, value)], rest)
        | _ => none
      | _ => none
    | _ => none

end

/-- The document that a text consists of. -/
def ofText? (text : Text) : Option Value := do
  let (value, rest) ← scan? (2 * text.length + 2) text
  if (skip rest).isEmpty then some value else none

end Value
end StepRecorder.Json
