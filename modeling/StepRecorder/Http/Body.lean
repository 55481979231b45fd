import StepRecorder.Http.Head

/-!
Bodies of web responses: how far one reaches is said in the head, and what does not reach that far
has been broken off.

A body in chunks is a sequence of sizes, in hexadecimal, each followed by as many characters; a size
of zero ends it, and fields can follow.
-/

namespace StepRecorder.Http

/-- How far a body reaches. -/
inductive Extent where
  | size (n : Nat)
  | inChunks
  /-- To the end of the connection. -/
  | toEnd
  deriving Repr, DecidableEq

namespace Extent

/-- The items of a value that is a list. -/
def items (value : Text) : List Text := (value.splitOn ',').map trimGaps

/-- The largest size a body can have. -/
def maxSize : Nat := Text.wordBound - 3

/-- The size on which some values agree. -/
def size? (values : List Text) : Option Nat := do
  match ← (values.flatMap items).mapM Text.word? with
  | [] => none
  | n :: more => if more.all (· = n) && n ≤ maxSize then some n else none

/-- Whether what is sent in some coding is in chunks: the last item says so. -/
def isInChunks (coding : Text) : Bool :=
  (items coding).getLast?.any fun item => item.map Char.toLower = "chunked".toList

/-- Whether a response of a status has no body. -/
def isBodiless (status : Nat) : Bool := status = 101 || status = 204 || status = 304

/-- How far the body after a head reaches, unless the head is not consistent. -/
def ofHead? (head : Head) : Option Extent :=
  if isBodiless head.status then some (.size 0)
  else
    match (head.values "transfer-encoding").getLast? with
    | some coding =>
      if !head.isCurrent then none else if isInChunks coding then some .inChunks else some .toEnd
    | none =>
      match head.values "content-length" with
      | [] => some .toEnd
      | values => (size? values).map .size

end Extent

/-- What follows the line end a text begins with. -/
def afterEnd? : Text → Option Text
  | '\r' :: '\n' :: rest => some rest
  | _ => none

theorem afterEnd?_length {text rest : Text} (h : afterEnd? text = some rest) :
    rest.length < text.length := by
  unfold afterEnd? at h
  split at h
  · obtain rfl := Option.some.inj h
    simp only [List.length_cons]
    omega
  · simp at h

/-- A text without the note it may begin with, which reaches to the end of the line. -/
def skipNote : Text → Text
  | ';' :: note => note.dropWhile fun c => c ≠ '\r' && c ≠ '\n'
  | text => text

theorem skipNote_length (text : Text) : (skipNote text).length ≤ text.length := by
  unfold skipNote
  split
  · exact Nat.le_succ_of_le (List.dropWhile_suffix _).length_le
  · exact Nat.le_refl _

/-- Whether a character is a hexadecimal digit. -/
def isHexDigit (c : Char) : Bool := (Text.hexValue? c).isSome

/-- The size of the chunk that a text begins with, and what follows its line. -/
def chunkSize? (text : Text) : Option (Nat × Text) := do
  let digits := text.takeWhile isHexDigit
  let rest ← afterEnd? (skipNote ((text.dropWhile isHexDigit).dropWhile isGap))
  if digits.isEmpty then none else some (← Text.valueIn? 16 digits, rest)

theorem chunkSize?_length {text rest : Text} {size : Nat}
    (h : chunkSize? text = some (size, rest)) : rest.length < text.length := by
  simp only [chunkSize?, Option.bind_eq_bind, Option.bind_eq_some_iff] at h
  obtain ⟨rest', he, h⟩ := h
  split at h
  · simp at h
  · simp only [Option.bind_eq_some_iff] at h
    obtain ⟨n, -, hr⟩ := h
    obtain ⟨-, rfl⟩ := Prod.mk.inj (Option.some.inj hr)
    have h1 := afterEnd?_length he
    have h2 := skipNote_length ((text.dropWhile isHexDigit).dropWhile isGap)
    have h3 := (List.dropWhile_suffix isGap (l := text.dropWhile isHexDigit)).length_le
    have h4 := (List.dropWhile_suffix isHexDigit (l := text)).length_le
    omega

/-- What the chunks of a text hold together, if they are all there. -/
def chunks? (text : Text) : Option Text :=
  match _ : chunkSize? text with
  | none => none
  | some (0, rest) => (fields? maxFields rest).map fun _ => []
  | some (size, rest) =>
    if rest.length < size then none
    else
      match _ : afterEnd? (rest.drop size) with
      | none => none
      | some more => (chunks? more).map (rest.take size ++ ·)
termination_by text.length
decreasing_by
  have h1 := afterEnd?_length ‹afterEnd? _ = _›
  have h2 := chunkSize?_length ‹chunkSize? _ = _›
  simp only [List.length_drop] at h1
  omega

/-- The body that a text begins with, if it is all there. -/
def Extent.body? : Extent → Text → Option Text
  | .size n, text => if text.length < n then none else some (text.take n)
  | .inChunks, text => chunks? text
  | .toEnd, text => some text

end StepRecorder.Http
