import StepRecorder.Naming
import StepRecorder.Naming.Role
import StepRecorder.Text.Numeral

/-!
Names without an oracle. A locator that gives an attribute of its element is named by the value of
the attribute, without blanks and with the role word of its class at the end:

    //XCUIElementTypeButton[@name='Sign  In']      SignInButton

Where that is no acceptable name, the locator gets the next number.
-/

namespace StepRecorder.Naming

/-- The quotes around a value. A value may start with one of them and end with the other. -/
def isQuote (c : Char) : Bool := c = '\x27' || c = '"'

/-- The value of an attribute that is compared here. -/
def valueOf? (key : Text) (text : Text) : Option Text := do
  let text ← Text.after? ('@' :: key) text
  let text ← Text.after? ['='] (Text.trimStart text)
  match Text.trimStart text with
  | [] => none
  | c :: text =>
    let value := text.takeWhile fun c => !isQuote c
    if isQuote c && !value.isEmpty && value.length < text.length then some value else none

/-- The attributes that name an element, the best one first. -/
def attributes : List Text := ["name".toList, "label".toList, "content-desc".toList]

/-- The value of the best attribute that a locator gives. -/
def attributeValue? (locator : Text) : Option Text :=
  attributes.findSome? fun key => Text.firstMatch (valueOf? key) locator

/-- The name that a locator's attribute gives, acceptable or not. -/
def attributeName? (locator : Text) : Option Text := do
  let name := Text.squeeze (← attributeValue? locator)
  if name.isEmpty then none
  else
    match (elementClass? locator).bind role? with
    | none => some name
    | some role => some (if endsWithRole role name then name else name ++ role)

/-- The name with a number. -/
def numbered (n : Nat) : Text := "DynamicElement_".toList ++ Text.decimal n

/-- The name of a locator when there are `count` entries already. -/
def fallback (locator : Text) (count : Nat) : Choice :=
  match attributeName? locator with
  | some name =>
    if isAcceptable name then ⟨name, .attributeValue⟩ else ⟨numbered (count + 1), .synthesized⟩
  | none => ⟨numbered (count + 1), .synthesized⟩

end StepRecorder.Naming
