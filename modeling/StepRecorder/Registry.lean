import StepRecorder.Naming
import StepRecorder.Notice
import StepRecorder.Ordered
import StepRecorder.Text.Numeral

/-!
The registry: the names of elements by their ids, and the expressions of locators by names. Entries
are never removed, and the first name of an id stands for good.

A name that is taken by another locator is a collision. Either the newer locator takes the entry
over, or it is stored under the first usable one of `Name_2`, `Name_3`, ...
-/

namespace StepRecorder

/-- What happens to a name that another locator has. -/
inductive CollisionPolicy where
  | overwrite
  | suffix
  deriving Repr, DecidableEq

/-- An id with its name and its locator. -/
structure Binding where
  id : Text
  name : Text
  locator : Text
  deriving Repr, DecidableEq

/-- The two maps of a registry. -/
structure Registry where
  policy : CollisionPolicy
  names : List (Text × Text) := []
  locators : List (Text × Text) := []
  deriving Repr, DecidableEq

namespace Registry

/-- A locator as it is stored. -/
def expressionOf (locator : Text) : Text := "xpath=".toList ++ locator

/-- The name of an id. -/
def nameOf? (registry : Registry) (id : Text) : Option Text := registry.names.lookup id

/-- Whether an id has a name. -/
def contains (registry : Registry) (id : Text) : Bool := (registry.nameOf? id).isSome

/-- The expression stored under a name. -/
def locatorOf? (registry : Registry) (name : Text) : Option Text := registry.locators.lookup name

/-- The number of entries. -/
def size (registry : Registry) : Nat := registry.locators.length

/-- The number of ids that have a name. -/
def bindings (registry : Registry) : Nat := registry.names.length

/-- The `n`-th name that is tried in place of `base`, cut so that it stays below the limit. -/
def candidate (base : Text) (n : Nat) : Text :=
  let ending := '_' :: Text.decimal n
  base.take (Naming.nameLimit - (ending.length + 1)) ++ ending

/-- Whether an expression can be stored under a name without a collision. -/
def isUsable (locators : List (Text × Text)) (expression name : Text) : Bool :=
  match locators.lookup name with
  | none => true
  | some existing => existing = expression

/-- The first usable candidate from the `n`-th on, of a number of tries. -/
def firstUsable? (locators : List (Text × Text)) (expression base : Text) : Nat → Nat → Option Text
  | 0, _ => none
  | tries + 1, n =>
    if isUsable locators expression (candidate base n) then some (candidate base n)
    else firstUsable? locators expression base tries (n + 1)

/-- The first usable candidate. No more are tried than there are entries that could stand in the
way, and one more. -/
def nextFree (locators : List (Text × Text)) (base expression : Text) : Text :=
  (firstUsable? locators expression base (locators.length + 1) 2).getD base

/-- The name under which an expression is stored when `name` is asked for. -/
def resolve (registry : Registry) (name expression : Text) : Text × List Notice :=
  match registry.locatorOf? name with
  | none => (name, [])
  | some existing =>
    if existing = expression then (name, [])
    else
      match registry.policy with
      | .overwrite => (name, [.entryOverwritten name existing expression])
      | .suffix =>
        let stored := nextFree registry.locators name expression
        (stored, [.entryRenamed name existing expression stored])

/-- What binding an id comes to. -/
inductive BindResult where
  | bound (binding : Binding)
  | alreadyBound (name : Text)
  deriving Repr, DecidableEq

/-- The registry with a name for an id and an entry for the name. An id that has a name keeps it. -/
def bind (registry : Registry) (id name locator : Text) : Registry × BindResult × List Notice :=
  match registry.nameOf? id with
  | some existing => (registry, .alreadyBound existing, [])
  | none =>
    let expression := expressionOf locator
    let (stored, notices) := registry.resolve name expression
    ({ registry with
        names := Ordered.put id stored registry.names
        locators := Ordered.put stored expression registry.locators },
      .bound ⟨id, stored, locator⟩, notices)

end Registry
end StepRecorder
