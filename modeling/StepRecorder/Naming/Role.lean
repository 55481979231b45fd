import StepRecorder.Text.Blank

/-!
Role words. The class of an element stands at the start of a locator, after two slashes; most
classes have a word for the role of their elements, which a name is to end with.
-/

namespace StepRecorder.Naming

/-- The characters a class name starts with. -/
def isClassStart (c : Char) : Bool := c.isAlpha || c = '_'

/-- The characters of a class name. -/
def isClassChar (c : Char) : Bool := c.isAlphanum || c = '_' || c = '.'

/-- The class that a locator starts with. -/
def elementClass? (locator : Text) : Option Text := do
  let text := Text.trimStart (← Text.after? ['/', '/'] locator)
  if (text.head?.map isClassStart).getD false then some (text.takeWhile isClassChar) else none

/-- What follows the last point of a class name; all of it, where there is none. -/
def lastPart (name : Text) : Text := (name.reverse.takeWhile (· ≠ '.')).reverse

/-- A class name without its library. -/
def shortClass (name : Text) : Text :=
  (Text.after? "XCUIElementType".toList name).getD (lastPart name)

/-- Classes whose role is known by their full name. -/
def rolesOfClasses : List (Text × Text) := [
  ("android.widget.TextView".toList, "Label".toList),
  ("android.widget.EditText".toList, "Field".toList)]

/-- Classes whose role is known by their short name. -/
def rolesOfShortClasses : List (Text × Text) := [
  ("Button".toList, "Button".toList), ("ImageButton".toList, "Button".toList),
  ("TextField".toList, "Field".toList), ("SecureTextField".toList, "Field".toList),
  ("SearchField".toList, "Field".toList), ("TextView".toList, "Field".toList),
  ("StaticText".toList, "Label".toList),
  ("Switch".toList, "Switch".toList), ("Toggle".toList, "Switch".toList),
  ("Cell".toList, "Cell".toList),
  ("Image".toList, "Image".toList), ("ImageView".toList, "Image".toList),
  ("Icon".toList, "Image".toList),
  ("Link".toList, "Link".toList),
  ("CheckBox".toList, "Checkbox".toList),
  ("Picker".toList, "Picker".toList), ("PickerWheel".toList, "Picker".toList),
  ("Spinner".toList, "Picker".toList),
  ("Slider".toList, "Slider".toList), ("SeekBar".toList, "Slider".toList),
  ("Tab".toList, "Tab".toList)]

/-- The role word of a class. -/
def role? (name : Text) : Option Text :=
  (rolesOfClasses.lookup name).or (rolesOfShortClasses.lookup (shortClass name))

/-- The lower-case letter of a character, as far as it is an ASCII letter. Beside the capital
letters only the Kelvin sign has one; every other character stands for itself. -/
def lower (c : Char) : Char := if c = '\u212a' then 'k' else c.toLower

/-- Whether a name ends with a role word in either case. -/
def endsWithRole (role name : Text) : Bool :=
  (role.map lower).isSuffixOf (name.map lower)

end StepRecorder.Naming
