import StepRecorder.Text.Numeral

/-!
JSON number literals, kept as they are written. Beside finding the end of a literal, two facts about
it matter: the whole number it stands for, if it is written as one and fits 64 bits, and whether
its value is within the range of double-precision numbers.
-/

namespace StepRecorder.Json.Number

/-- A run of digits, and what follows it. -/
def digits (text : Text) : Text × Text := (text.takeWhile Char.isDigit, text.dropWhile Char.isDigit)

/-- The digits of a whole part: at least one, and no zero before another digit. -/
def whole? (text : Text) : Option (Text × Text) :=
  let found := digits text
  if found.1.isEmpty || (found.1.head? = some '0' && 1 < found.1.length) then none else some found

/-- A fraction with its point, or nothing where no point stands. -/
def fraction? : Text → Option (Text × Text)
  | '.' :: rest =>
    let found := digits rest
    if found.1.isEmpty then none else some ('.' :: found.1, found.2)
  | text => some ([], text)

/-- The sign of an exponent, and what follows it. -/
def exponentSign : Text → Text × Text
  | '+' :: rest => (['+'], rest)
  | '-' :: rest => (['-'], rest)
  | text => ([], text)

/-- An exponent with its letter, or nothing where no such letter stands. -/
def exponent? : Text → Option (Text × Text)
  | [] => some ([], [])
  | c :: rest =>
    if c = 'e' ∨ c = 'E' then
      let sign := exponentSign rest
      let found := digits sign.2
      if found.1.isEmpty then none else some (c :: sign.1 ++ found.1, found.2)
    else some ([], c :: rest)

/-- A minus sign, and what follows it. -/
def sign : Text → Text × Text
  | '-' :: rest => (['-'], rest)
  | text => ([], text)

/-- The literal that a text starts with, and what follows it. -/
def scan? (text : Text) : Option (Text × Text) := do
  let minus := sign text
  let integer ← whole? minus.2
  let fraction ← fraction? integer.2
  let exponent ← exponent? fraction.2
  some (minus.1 ++ integer.1 ++ fraction.1 ++ exponent.1, exponent.2)

/-- The value of a literal written as a whole number without a sign, if it fits 64 bits. -/
def word? (written : Text) : Option Nat :=
  if written.all Char.isDigit then Text.word? written else none

/-- Digits taken into a significand as long as it fits 64 bits; with it the digits left over. -/
def accumulate (significand : Nat) : Text → Nat × Text
  | [] => (significand, [])
  | c :: rest =>
    let next := significand * 10 + (c.toNat - '0'.toNat)
    if next < Text.wordBound then accumulate next rest else (significand, c :: rest)

/-- The nearest number with 53 significant bits, the even one of two that are as near. -/
def round53 (n : Nat) : Nat :=
  let shift := n.log2 - 52
  let unit := 1 <<< shift
  let low := n % unit
  let floor := n / unit
  let up := if 2 * low > unit then true else if 2 * low < unit then false else floor % 2 == 1
  (if up then floor + 1 else floor) * unit

/-- The greatest power of ten in the range. -/
def maxPower : Nat := 308

/-- Whether a significand times a power of ten is below the bound of double-precision numbers, where
both factors and their product are rounded. -/
def fits (significand : Nat) (power : Int) : Bool :=
  if significand = 0 then true
  else if power < 0 then true
  else if power > maxPower then false
  else round53 (round53 significand * round53 (Nat.pow 10 power.toNat)) < 1 <<< 1024

/-- The bound of the digits of an exponent that is read as a number. -/
def exponentBound : Nat := 1 <<< 31

/-- Whether the value of a literal is in the range of double-precision numbers. The digits that a
64-bit significand has no room for only move the power of ten, or are ignored after the point. -/
def inRange (written : Text) : Bool :=
  let body := (sign written).2
  let integer := digits body
  let kept := accumulate 0 integer.1
  let point := (fraction? integer.2).getD ([], integer.2)
  let decimals := point.1.drop 1
  let whole := accumulate kept.1 decimals
  let shift : Int := (kept.2.length : Int) - ((decimals.length : Int) - whole.2.length)
  match point.2 with
  | [] => fits whole.1 shift
  | _ :: rest =>
    let mark := exponentSign rest
    let size := (Text.valueIn? 10 mark.2).getD 0
    let negative := mark.1 == ['-']
    if exponentBound ≤ size then negative || whole.1 == 0
    else fits whole.1 (if negative then shift - size else shift + size)

end StepRecorder.Json.Number
