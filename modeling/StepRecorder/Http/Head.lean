import StepRecorder.Text.Line
import StepRecorder.Text.Numeral

/-!
Heads of web responses. A head is a line with a status and lines with fields, up to an empty line:

    HTTP/1.1 404 Not Found
    content-length: 3

Empty lines before it are passed over. A text is read as one character for each byte.

Main statement: `read?_length` says that something is left of a text only if a head was taken from
it, so that one head after the other can be read.
-/

namespace StepRecorder.Http

/-- What comes before the body of a response. -/
structure Head where
  /-- Whether the response is in version 1.1 of the protocol, not in version 1.0. -/
  isCurrent : Bool
  status : Nat
  /-- Names, in lower case, and values, in the order of their lines. -/
  fields : List (Text × Text)
  deriving Repr, DecidableEq

/-- A blank within a line. -/
def isGap (c : Char) : Bool := c = ' ' || c = '\t'

/-- Whether a character can stand in the name of a field. -/
def isNameChar (c : Char) : Bool := c.isAlphanum || "!#$%&\x27*+-.^_\x60|~".toList.contains c

/-- Whether a character can stand in the value of a field. -/
def isValueChar (c : Char) : Bool := c = '\t' || (' ' ≤ c && c ≠ '\x7F')

/-- A text without the blanks on its outside. -/
def trimGaps (text : Text) : Text :=
  ((text.dropWhile isGap).reverse.dropWhile isGap).reverse

/-- The first line of a text, without its end, and what follows it; nothing if the line does not
end. -/
def line? (text : Text) : Option (Text × Text) :=
  match text.dropWhile (· ≠ '\n') with
  | [] => none
  | _ :: rest => some (Text.dropReturn (text.takeWhile (· ≠ '\n')), rest)

theorem line?_length {text line rest : Text} (h : line? text = some (line, rest)) :
    rest.length < text.length := by
  have hs := (List.dropWhile_suffix (· ≠ '\n') (l := text)).length_le
  unfold line? at h
  split at h
  · simp at h
  · next heq =>
    obtain ⟨-, rfl⟩ := Prod.mk.inj (Option.some.inj h)
    simp only [heq, List.length_cons] at hs
    omega

/-- What follows the empty lines a text begins with. -/
def skipEmptyLines (text : Text) : Text :=
  match _ : line? text with
  | some ([], rest) => skipEmptyLines rest
  | _ => text
termination_by text.length
decreasing_by exact line?_length ‹_›

theorem skipEmptyLines_length (text : Text) : (skipEmptyLines text).length ≤ text.length := by
  fun_induction skipEmptyLines text with
  | case1 text rest h ih => exact Nat.le_trans ih (Nat.le_of_lt (line?_length h))
  | case2 => exact Nat.le_refl _

/-- Whether a text can follow a status: nothing, or a blank and what the status means. -/
def isReason : Text → Bool
  | [] => true
  | c :: reason => c = ' ' && reason.all isValueChar

/-- The version, as far as it matters, and the status in the first line of a head. -/
def statusLine? (line : Text) : Option (Bool × Nat) :=
  match Text.after? "HTTP/1.".toList line with
  | some (minor :: ' ' :: a :: b :: c :: reason) => do
    let status ← Text.valueIn? 10 [a, b, c]
    if (minor = '0' || minor = '1') && 100 ≤ status && isReason reason then
      some (minor = '1', status)
    else none
  | _ => none

/-- The field in a line. -/
def field? (line : Text) : Option (Text × Text) :=
  let name := line.takeWhile isNameChar
  match line.dropWhile isNameChar with
  | ':' :: value =>
    if !name.isEmpty && value.all isValueChar then some (name.map Char.toLower, trimGaps value)
    else none
  | _ => none

/-- The fields in the lines up to an empty one, at most `room` of them, and what follows that
line. -/
def fields? (room : Nat) (text : Text) : Option (List (Text × Text) × Text) :=
  match line? text with
  | none => none
  | some ([], rest) => some ([], rest)
  | some (line, rest) =>
    match room with
    | 0 => none
    | room + 1 => do
      let field ← field? line
      let (fields, rest) ← fields? room rest
      some (field :: fields, rest)

theorem fields?_length {room : Nat} {text rest : Text} {fields : List (Text × Text)}
    (h : fields? room text = some (fields, rest)) : rest.length < text.length := by
  induction room generalizing text fields with
  | zero =>
    unfold fields? at h
    split at h
    · simp at h
    · next hl =>
      obtain ⟨-, rfl⟩ := Prod.mk.inj (Option.some.inj h)
      exact line?_length hl
    · simp at h
  | succ room ih =>
    unfold fields? at h
    split at h
    · simp at h
    · next hl =>
      obtain ⟨-, rfl⟩ := Prod.mk.inj (Option.some.inj h)
      exact line?_length hl
    · next hl =>
      simp only [Option.bind_eq_bind, Option.bind_eq_some_iff] at h
      obtain ⟨field, -, ⟨more, rest'⟩, hm, hr⟩ := h
      obtain ⟨-, rfl⟩ := Prod.mk.inj (Option.some.inj hr)
      exact Nat.lt_trans (ih hm) (line?_length hl)

/-- How many fields a head can have. -/
def maxFields : Nat := 100

namespace Head

/-- The head at the beginning of a text, and what follows it. -/
def read? (text : Text) : Option (Head × Text) := do
  let (line, rest) ← line? (skipEmptyLines text)
  let (isCurrent, status) ← statusLine? line
  let (fields, rest) ← fields? maxFields rest
  some (⟨isCurrent, status, fields⟩, rest)

theorem read?_length {text rest : Text} {head : Head} (h : read? text = some (head, rest)) :
    rest.length < text.length := by
  simp only [read?, Option.bind_eq_bind, Option.bind_eq_some_iff] at h
  obtain ⟨⟨line, rest'⟩, hl, ⟨isCurrent, status⟩, -, ⟨fields, rest''⟩, hf, hr⟩ := h
  obtain ⟨-, rfl⟩ := Prod.mk.inj (Option.some.inj hr)
  exact Nat.lt_trans (fields?_length hf)
    (Nat.lt_of_lt_of_le (line?_length hl) (skipEmptyLines_length text))

/-- The values of a field, in order. -/
def values (head : Head) (name : String) : List Text :=
  (head.fields.filter fun field => field.1 = name.toList).map (·.2)

/-- Whether a head only tells that another one is under way. -/
def isInterim (head : Head) : Bool :=
  100 ≤ head.status && head.status < 200 && head.status ≠ 101

/-- The first head of a text that is not interim, and what follows it. -/
def final? (text : Text) : Option (Head × Text) :=
  match _ : read? text with
  | none => none
  | some (head, rest) => if head.isInterim then final? rest else some (head, rest)
termination_by text.length
decreasing_by exact read?_length ‹_›

end Head
end StepRecorder.Http
