import Mathlib.Data.Nat.Digits.Defs
import Mathlib.Tactic.Ring
import StepRecorder.Text.Numeral

/-!
The value of a decimal numeral. Leading zeros do not matter, and every character has to be an ASCII
digit; whether the value fits 64 bits is seen at the end only.

    007      7
    2^64     none
    1x       none

Main statements: `word?_eq_some_iff`, and `decimalValue_decimal` for the numerals that are written.
-/

namespace StepRecorder.Text

/-- The value of decimal digits, the first of which counts most. -/
def decimalValue (digits : Text) : Nat :=
  Nat.ofDigits 10 (digits.map fun c => c.toNat - '0'.toNat).reverse

theorem decimalValue_cons (c : Char) (digits : Text) :
    decimalValue (c :: digits)
      = (c.toNat - '0'.toNat) * 10 ^ digits.length + decimalValue digits := by
  rw [decimalValue, List.map_cons, Nat.ofDigits_reverse_cons, List.length_map, Nat.mul_comm,
    Nat.add_comm]
  rfl

/-- Digits behind a number that is known already. -/
theorem ofDigitChars_eq (digits : Text) (first : Nat) :
    Nat.ofDigitChars 10 digits first = first * 10 ^ digits.length + decimalValue digits := by
  induction digits generalizing first with
  | nil => simp [Nat.ofDigitChars, decimalValue]
  | cons c digits ih =>
    have hstep : Nat.ofDigitChars 10 (c :: digits) first
        = Nat.ofDigitChars 10 digits (10 * first + (c.toNat - '0'.toNat)) := rfl
    rw [hstep, ih, decimalValue_cons, List.length_cons]
    ring

/-- A numeral has the value it was written for. -/
theorem decimalValue_decimal (n : Nat) : decimalValue (decimal n) = n := by
  have hvalue := ofDigitChars_eq (decimal n) 0
  rw [Nat.zero_mul, Nat.zero_add] at hvalue
  rw [← hvalue]
  exact Nat.ofDigitChars_ten_toDigits

/-- Only zero has a numeral that begins with a zero. -/
theorem head?_decimal_eq_zero {n : Nat} (h : (decimal n).head? = some '0') : n = 0 := by
  induction n using Nat.strongRecOn with
  | ind n ih =>
    by_cases hlt : n < 10
    · have hdigit : ∀ n < 10, Nat.digitChar n = '0' → n = 0 := by decide
      rw [decimal, Nat.toDigits_of_lt_base hlt] at h
      exact hdigit n hlt (Option.some.inj h)
    · have hle : 10 ≤ n := Nat.le_of_not_lt hlt
      obtain ⟨c, digits, hcons⟩ := List.exists_cons_of_ne_nil (Nat.toDigits_ne_nil (n := n / 10))
      rw [decimal, Nat.toDigits_of_base_le (by decide) hle, hcons, List.cons_append,
        List.head?_cons] at h
      have hzero := ih (n / 10) (by omega) (by rw [decimal, hcons, List.head?_cons, h])
      omega

/-- Reading one more character. -/
def readDigit (total : Option Nat) (c : Char) : Option Nat :=
  total.bind fun total =>
    (hexValue? c).bind fun digit => if digit < 10 then some (total * 10 + digit) else none

theorem valueIn?_ten (digits : Text) : valueIn? 10 digits = digits.foldl readDigit (some 0) := rfl

theorem readDigit_of_isDigit {c : Char} (h : c.isDigit = true) (total : Nat) :
    readDigit (some total) c = some (total * 10 + (c.toNat - '0'.toNat)) := by
  simp only [Char.isDigit, Bool.and_eq_true, decide_eq_true_eq] at h
  have hhigh : c.toNat ≤ 57 := h.2
  have hvalue : hexValue? c = some (c.toNat - '0'.toNat) := if_pos h
  have hlt : c.toNat - '0'.toNat < 10 := by
    have hzero : '0'.toNat = 48 := rfl
    omega
  simp only [readDigit, Option.bind_some, hvalue, if_pos hlt]

/-- A letter is no decimal digit, whatever it is worth in hexadecimal. -/
theorem readDigit_of_not_isDigit {c : Char} (h : c.isDigit = false) (total : Nat) :
    readDigit (some total) c = none := by
  have hrange : ¬ ('0' ≤ c ∧ c ≤ '9') := by
    intro hrange
    simp only [Char.isDigit, Bool.and_eq_false_iff, decide_eq_false_iff_not] at h
    rcases h with h | h
    · exact h hrange.1
    · exact h hrange.2
  simp only [readDigit, Option.bind_some, hexValue?, if_neg hrange]
  split
  · rw [Option.bind_some, if_neg (by omega)]
  · split
    · rw [Option.bind_some, if_neg (by omega)]
    · rfl

theorem foldl_readDigit_none (digits : Text) : digits.foldl readDigit none = none := by
  induction digits with
  | nil => rfl
  | cons c digits ih => exact ih

/-- All digits are read, or none. -/
theorem foldl_readDigit (digits : Text) (total : Nat) :
    digits.foldl readDigit (some total)
      = if digits.all Char.isDigit then some (total * 10 ^ digits.length + decimalValue digits)
        else none := by
  induction digits generalizing total with
  | nil => simp [decimalValue]
  | cons c digits ih =>
    cases hc : c.isDigit with
    | false =>
      rw [List.foldl_cons, readDigit_of_not_isDigit hc, foldl_readDigit_none]
      simp [hc]
    | true =>
      rw [List.foldl_cons, readDigit_of_isDigit hc, ih, List.all_cons, hc, Bool.true_and,
        decimalValue_cons, List.length_cons]
      congr 2
      ring

/-- A numeral of 64 bits: some digits, all of them ASCII, whose value is below the bound. -/
theorem word?_eq_some_iff {digits : Text} {n : Nat} :
    word? digits = some n
      ↔ digits ≠ [] ∧ (∀ c ∈ digits, c.isDigit = true) ∧ n = decimalValue digits ∧ n < 2 ^ 64 := by
  have hbound : wordBound = 2 ^ 64 := rfl
  have hvalue : valueIn? 10 digits
      = if digits.all Char.isDigit then some (decimalValue digits) else none := by
    rw [valueIn?_ten, foldl_readDigit, Nat.zero_mul, Nat.zero_add]
  rw [word?, hvalue, hbound, ← List.all_eq_true]
  by_cases hempty : digits = []
  · simp [hempty]
  cases hall : digits.all Char.isDigit with
  | false => simp [hempty]
  | true =>
    by_cases hlt : decimalValue digits < 2 ^ 64
    · simp only [hempty, List.isEmpty_iff, if_false, if_true, Option.bind_some, if_pos hlt,
        Option.some.injEq, ne_eq, not_false_eq_true, true_and]
      constructor
      · rintro rfl
        exact ⟨rfl, hlt⟩
      · rintro ⟨rfl, -⟩
        rfl
    · simp only [hempty, List.isEmpty_iff, if_false, if_true, Option.bind_some, if_neg hlt,
        reduceCtorEq, false_iff]
      rintro ⟨-, -, rfl, hbelow⟩
      exact hlt hbelow

end StepRecorder.Text
