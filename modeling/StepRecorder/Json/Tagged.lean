import StepRecorder.Json.Field

/-!
Records that name their own kind. Such a record is an object with the kind under a given name and
its fields beside it, or an array of the kind and the fields in their order. Since the kind may
come last, the whole record is kept before it is understood, so all of it has to be sound, and it
may be nested at most 127 deep.
-/

namespace StepRecorder.Json

/-- How deep a record that is kept as a whole may be nested. -/
def maxDepth : Nat := 127

/-- The fields of a record, by name or by place. -/
inductive Fields where
  | byName (members : List (Text × Value))
  | byPlace (items : List Value)

/-- The kind and the fields of a record that has its kind under `label`. -/
def tagged? (label : Text) (value : Value) : Option (Text × Fields) :=
  if value.isSound && value.depth ≤ maxDepth then
    match value with
    | .object members => do
      let members ← named? members
      let kind ← (← required? label members).text?
      some (kind, .byName (members.filter fun member => member.1 ≠ label))
    | .array (kind :: items) => kind.text?.map fun kind => (kind, .byPlace items)
    | _ => none
  else none

/-- The values of the fields with the given names; members with other names are passed over. -/
def Fields.values? (names : List Text) : Fields → Option (List Value)
  | .byName members => names.mapM fun name => required? name members
  | .byPlace items => if items.length = names.length then some items else none

end StepRecorder.Json
