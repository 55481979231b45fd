import StepRecorder.Text.Numeral

/-!
JSON string literals. The *body* of a literal is what stands between its quotes. `scan?` finds the
end of a body, `decode?` gives the text that a body stands for, and `encode` writes a body.

A body may be well-formed and yet stand for no text: an escape can name half of a surrogate pair.
So `scan?` accepts more than `decode?`, and what a program skips is only scanned.

Main statement: `decode?_encode`, a written body stands for the text it was written for.
-/

namespace StepRecorder.Json.Literal

/-- The character of an escape of one letter. -/
def short? : Char → Option Char
  | '"' => some '"'
  | '\\' => some '\\'
  | '/' => some '/'
  | 'b' => some '\x08'
  | 'f' => some '\x0C'
  | 'n' => some '\n'
  | 'r' => some '\r'
  | 't' => some '\t'
  | _ => none

/-- The code unit of four hexadecimal digits. -/
def unit? (a b c d : Char) : Option Nat := Text.valueIn? 16 [a, b, c, d]

/-- The first halves of surrogate pairs. -/
def isHigh (unit : Nat) : Bool := 0xD800 ≤ unit && unit ≤ 0xDBFF

/-- The second halves of surrogate pairs. -/
def isLow (unit : Nat) : Bool := 0xDC00 ≤ unit && unit ≤ 0xDFFF

/-- The character of a surrogate pair. -/
def paired (high low : Nat) : Char :=
  Char.ofNat (0x10000 + (high - 0xD800) * 0x400 + (low - 0xDC00))

/-- Whether a character may stand in a body without a backslash. -/
def isPlain (c : Char) : Bool := c ≠ '"' && c ≠ '\\' && 0x20 ≤ c.toNat

/-- The body before the closing quote, and what follows that quote. -/
def scan? : Text → Option (Text × Text)
  | [] => none
  | '"' :: rest => some ([], rest)
  | '\\' :: 'u' :: a :: b :: c :: d :: rest =>
    if (unit? a b c d).isSome then
      (scan? rest).map fun found => ('\\' :: 'u' :: a :: b :: c :: d :: found.1, found.2)
    else none
  | '\\' :: c :: rest =>
    if (short? c).isSome then (scan? rest).map fun found => ('\\' :: c :: found.1, found.2)
    else none
  | c :: rest =>
    if isPlain c then (scan? rest).map fun found => (c :: found.1, found.2) else none

/-- The text of a body. -/
def decode? : Text → Option Text
  | [] => some []
  | '\\' :: 'u' :: a :: b :: c :: d :: rest =>
    match unit? a b c d with
    | none => none
    | some unit =>
      if isHigh unit then
        match rest with
        | '\\' :: 'u' :: a :: b :: c :: d :: rest =>
          match unit? a b c d with
          | none => none
          | some low => if isLow low then (decode? rest).map (paired unit low :: ·) else none
        | _ => none
      else if isLow unit then none
      else (decode? rest).map (Char.ofNat unit :: ·)
  | '\\' :: c :: rest =>
    match short? c with
    | none => none
    | some c => (decode? rest).map (c :: ·)
  | c :: rest => if isPlain c then (decode? rest).map (c :: ·) else none

/-- One character of a written body: as short an escape as there is, and none where none is due. -/
def encodeChar (c : Char) : Text :=
  if c = '"' then ['\\', '"']
  else if c = '\\' then ['\\', '\\']
  else if c = '\x08' then ['\\', 'b']
  else if c = '\x0C' then ['\\', 'f']
  else if c = '\n' then ['\\', 'n']
  else if c = '\r' then ['\\', 'r']
  else if c = '\t' then ['\\', 't']
  else if c.toNat < 0x20 then
    ['\\', 'u', '0', '0', Nat.digitChar (c.toNat / 16), Nat.digitChar (c.toNat % 16)]
  else [c]

/-- The body that stands for a text. -/
def encode (text : Text) : Text := text.flatMap encodeChar

theorem decode?_plain {c : Char} (h : isPlain c = true) (rest : Text) :
    decode? (c :: rest) = (decode? rest).map (c :: ·) := by
  have hc : c ≠ '\\' := by
    rintro rfl
    simp [isPlain] at h
  rw [decode?.eq_def]
  split <;> simp_all

theorem decode?_low {n : Nat} (h : n < 0x20) (rest : Text) :
    decode? ('\\' :: 'u' :: '0' :: '0' :: Nat.digitChar (n / 16) :: Nat.digitChar (n % 16) :: rest)
      = (decode? rest).map (Char.ofNat n :: ·) := by
  have hunit : ∀ n < 0x20,
      unit? '0' '0' (Nat.digitChar (n / 16)) (Nat.digitChar (n % 16)) = some n := by decide
  have hhigh : isHigh n = false := by simp [isHigh]; omega
  have hlow : isLow n = false := by simp [isLow]; omega
  simp [decode?, hunit n h, hhigh, hlow]

theorem decode?_encodeChar (c : Char) (rest : Text) :
    decode? (encodeChar c ++ rest) = (decode? rest).map (c :: ·) := by
  unfold encodeChar
  repeat' split
  case isTrue h => subst h; simp [decode?, short?]
  case isTrue h => subst h; simp [decode?, short?]
  case isTrue h => subst h; simp [decode?, short?]
  case isTrue h => subst h; simp [decode?, short?]
  case isTrue h => subst h; simp [decode?, short?]
  case isTrue h => subst h; simp [decode?, short?]
  case isTrue h => subst h; simp [decode?, short?]
  case isTrue h =>
    have := decode?_low h rest
    simpa [Char.ofNat_toNat] using this
  case isFalse h =>
    exact decode?_plain (by simp_all [isPlain]) rest

/-- A written body stands for the text it was written for. -/
theorem decode?_encode (text : Text) : decode? (encode text) = some text := by
  induction text with
  | nil => rfl
  | cons c text ih =>
    rw [show encode (c :: text) = encodeChar c ++ encode text from rfl, decode?_encodeChar, ih]
    rfl

end StepRecorder.Json.Literal
