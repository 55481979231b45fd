import StepRecorder.Text.Basic

/-!
Numerals: a number in decimal or in lower-case hexadecimal, and the value of a decimal numeral
that has to fit 64 bits.
-/

namespace StepRecorder.Text

/-- A number in decimal digits. -/
def decimal (n : Nat) : Text := Nat.toDigits 10 n

/-- A number in lower-case hexadecimal digits. -/
def hexadecimal (n : Nat) : Text := Nat.toDigits 16 n

/-- The value of a hexadecimal digit in either case. -/
def hexValue? (c : Char) : Option Nat :=
  if '0' ≤ c ∧ c ≤ '9' then some (c.toNat - '0'.toNat)
  else if 'a' ≤ c ∧ c ≤ 'f' then some (c.toNat - 'a'.toNat + 10)
  else if 'A' ≤ c ∧ c ≤ 'F' then some (c.toNat - 'A'.toNat + 10)
  else none

/-- The value of digits in a base of at most sixteen, or nothing if one is no digit of it. -/
def valueIn? (base : Nat) (digits : Text) : Option Nat :=
  digits.foldl (fun total c => do
    let total ← total
    let digit ← hexValue? c
    if digit < base then some (total * base + digit) else none) (some 0)

/-- The bound of 64-bit numbers. -/
def wordBound : Nat := 1 <<< 64

/-- The value of non-empty decimal ASCII digits, if it fits 64 bits. -/
def word? (digits : Text) : Option Nat :=
  if digits.isEmpty then none
  else (valueIn? 10 digits).bind fun n => if n < wordBound then some n else none

end StepRecorder.Text
