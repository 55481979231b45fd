import Mathlib.Tactic.SplitIfs
import StepRecorder.Json.Number
import StepRecorder.Proofs.Text.Numeral

/-!
Whole numbers as number literals. A literal ends where no digit, point or exponent follows; a number
of 64 bits is read as itself, and it is far within the range of double-precision numbers.

Main statements: `scan?_of_isWhole`, `word?_decimal` and `inRange_decimal`.
-/

namespace StepRecorder.Json.Number

/-- The digits of a whole number: at least one, and no zero before another digit. -/
structure IsWhole (written : Text) : Prop where
  isDigit : ∀ c ∈ written, c.isDigit = true
  ne_nil : written ≠ []
  head : written.head? = some '0' → written.length = 1

/-- A text with which no literal goes on. -/
def Stops (text : Text) : Prop :=
  ∀ c, text.head? = some c → c.isDigit = false ∧ c ≠ '.' ∧ c ≠ 'e' ∧ c ≠ 'E'

theorem isWhole_decimal (n : Nat) : IsWhole (Text.decimal n) where
  isDigit _ hc := Nat.isDigit_of_mem_toDigits (by decide) (by decide) hc
  ne_nil := Nat.toDigits_ne_nil
  head h := by
    rw [Text.head?_decimal_eq_zero h]
    rfl

theorem digits_append {written rest : Text} (hdigit : ∀ c ∈ written, c.isDigit = true)
    (hrest : Stops rest) : digits (written ++ rest) = (written, rest) := by
  have hstop : rest.takeWhile Char.isDigit = [] ∧ rest.dropWhile Char.isDigit = rest := by
    cases rest with
    | nil => exact ⟨rfl, rfl⟩
    | cons c rest =>
      have hc := (hrest c rfl).1
      exact ⟨List.takeWhile_cons_of_neg (by simp [hc]), List.dropWhile_cons_of_neg (by simp [hc])⟩
  rw [digits, List.takeWhile_append_of_pos hdigit, List.dropWhile_append_of_pos hdigit, hstop.1,
    hstop.2, List.append_nil]

theorem stops_nil : Stops [] := nofun

theorem stops_cons {c : Char} (h : c.isDigit = false ∧ c ≠ '.' ∧ c ≠ 'e' ∧ c ≠ 'E')
    (rest : Text) : Stops (c :: rest) := by
  intro first hfirst
  obtain rfl := Option.some.inj hfirst
  exact h

namespace IsWhole

variable {written : Text} (h : IsWhole written)
include h

theorem sign_append (rest : Text) : sign (written ++ rest) = ([], written ++ rest) := by
  cases written with
  | nil => exact absurd rfl h.ne_nil
  | cons c written =>
    have hc : c ≠ '-' := by
      rintro rfl
      cases h.isDigit '-' List.mem_cons_self
    rw [List.cons_append, sign.eq_2]
    intro _ heq
    exact hc (List.cons.inj heq).1

theorem whole?_append {rest : Text} (hrest : Stops rest) :
    whole? (written ++ rest) = some (written, rest) := by
  have hzero : ¬ (written.head? = some '0' ∧ 1 < written.length) := by
    rintro ⟨hhead, hlong⟩
    have hlength := h.head hhead
    omega
  rw [whole?, digits_append h.isDigit hrest]
  simp only [Bool.or_eq_true, Bool.and_eq_true, decide_eq_true_eq, List.isEmpty_iff, h.ne_nil,
    hzero, or_self, if_false]

end IsWhole

theorem fraction?_of_stops {rest : Text} (h : Stops rest) : fraction? rest = some ([], rest) := by
  cases rest with
  | nil => rfl
  | cons c rest =>
    rw [fraction?.eq_2]
    intro _ heq
    exact (h c rfl).2.1 (List.cons.inj heq).1

theorem exponent?_of_stops {rest : Text} (h : Stops rest) : exponent? rest = some ([], rest) := by
  cases rest with
  | nil => rfl
  | cons c rest =>
    obtain ⟨-, -, hlower, hupper⟩ := h c rfl
    rw [exponent?, if_neg (not_or.mpr ⟨hlower, hupper⟩)]

/-- A whole number ends where no literal goes on. -/
theorem scan?_of_isWhole {written rest : Text} (h : IsWhole written) (hrest : Stops rest) :
    scan? (written ++ rest) = some (written, rest) := by
  simp only [scan?, h.sign_append, h.whole?_append hrest, fraction?_of_stops hrest,
    exponent?_of_stops hrest, Option.bind_eq_bind, Option.bind_some, List.nil_append,
    List.append_nil]

/-- A number of 64 bits is read as itself. -/
theorem word?_decimal {n : Nat} (h : n < 2 ^ 64) : word? (Text.decimal n) = some n := by
  have hwhole := isWhole_decimal n
  rw [word?, if_pos (List.all_eq_true.mpr hwhole.isDigit), Text.word?_eq_some_iff]
  exact ⟨hwhole.ne_nil, hwhole.isDigit, (Text.decimalValue_decimal n).symm, h⟩

/-- All digits have room in a significand whose value fits 64 bits. -/
theorem accumulate_eq {written : Text} {significand : Nat}
    (h : significand * 10 ^ written.length + Text.decimalValue written < Text.wordBound) :
    accumulate significand written
      = (significand * 10 ^ written.length + Text.decimalValue written, []) := by
  induction written generalizing significand with
  | nil => simp [accumulate, Text.decimalValue]
  | cons c written ih =>
    have hvalue : significand * 10 ^ (c :: written).length + Text.decimalValue (c :: written)
        = (significand * 10 + (c.toNat - '0'.toNat)) * 10 ^ written.length
          + Text.decimalValue written := by
      rw [Text.decimalValue_cons, List.length_cons]
      ring
    rw [hvalue] at h ⊢
    have hroom : significand * 10 + (c.toNat - '0'.toNat) < Text.wordBound := by
      have hle := Nat.le_mul_of_pos_right (significand * 10 + (c.toNat - '0'.toNat))
        (Nat.pow_pos (n := written.length) (show 0 < 10 by decide))
      omega
    rw [accumulate, if_pos hroom, ih h]

/-- Rounding does not double a number. -/
theorem round53_le (n : Nat) : round53 n ≤ 2 * n + 1 := by
  have hunit : 1 <<< (n.log2 - 52) ≤ n + 1 := by
    rw [Nat.one_shiftLeft]
    by_cases hzero : n = 0
    · rw [hzero]
      decide
    · calc 2 ^ (n.log2 - 52) ≤ 2 ^ n.log2 := Nat.pow_le_pow_right (by decide) (Nat.sub_le _ _)
        _ ≤ n := Nat.log2_self_le hzero
        _ ≤ n + 1 := Nat.le_succ n
  have hfloor : n / (1 <<< (n.log2 - 52)) * (1 <<< (n.log2 - 52)) ≤ n := Nat.div_mul_le_self _ _
  have hround : ∀ up : Bool, (if up then n / (1 <<< (n.log2 - 52)) + 1
      else n / (1 <<< (n.log2 - 52))) * (1 <<< (n.log2 - 52)) ≤ 2 * n + 1 := by
    intro up
    cases up with
    | false => exact hfloor.trans (by omega)
    | true =>
      rw [if_pos rfl, Nat.succ_mul]
      omega
  exact hround _

theorem fits_of_lt {n : Nat} (h : n < 2 ^ 64) : fits n 0 = true := by
  have hone : round53 (Nat.pow 10 (0 : Int).toNat) = 1 := by decide
  have hbound : round53 (round53 n * 1) < 1 <<< 1024 := by
    calc round53 (round53 n * 1) ≤ 2 * (round53 n * 1) + 1 := round53_le _
      _ ≤ 2 ^ 67 := by
        have hround := round53_le n
        omega
      _ < 1 <<< 1024 := by decide
  unfold fits
  split_ifs with hzero hneg hbig
  · rfl
  · rfl
  · cases hbig
  · rw [hone]
    exact decide_eq_true hbound

/-- A number of 64 bits is in the range of double-precision numbers. -/
theorem inRange_decimal {n : Nat} (h : n < 2 ^ 64) : inRange (Text.decimal n) = true := by
  have hwhole := isWhole_decimal n
  have hsign : sign (Text.decimal n) = ([], Text.decimal n) := by
    simpa using hwhole.sign_append []
  have hdigits : digits (Text.decimal n) = (Text.decimal n, []) := by
    simpa using digits_append hwhole.isDigit stops_nil
  have hkept : accumulate 0 (Text.decimal n) = (n, []) := by
    have hvalue : 0 * 10 ^ (Text.decimal n).length + Text.decimalValue (Text.decimal n) = n := by
      rw [Nat.zero_mul, Nat.zero_add, Text.decimalValue_decimal]
    have hroom := accumulate_eq (hvalue.symm ▸ h)
    rwa [hvalue] at hroom
  unfold inRange
  dsimp only
  rw [hsign]
  dsimp only
  rw [hdigits]
  dsimp only
  rw [hkept]
  exact fits_of_lt h

end StepRecorder.Json.Number
