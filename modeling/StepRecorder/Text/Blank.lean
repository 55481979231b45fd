import StepRecorder.Text.Basic

/-!
The 25 characters with the Unicode property White_Space, and trimming by them.

Main statement: `isBlank_of_isWhitespace`, every character that core counts as white space is blank.
-/

namespace StepRecorder.Text

/-- The property White_Space. -/
def isBlank (c : Char) : Bool :=
  let n := c.toNat
  (9 ≤ n && n ≤ 13) || n = 0x20 || n = 0x85 || n = 0xA0 || n = 0x1680 ||
  (0x2000 ≤ n && n ≤ 0x200A) || n = 0x2028 || n = 0x2029 || n = 0x202F || n = 0x205F || n = 0x3000

theorem isBlank_of_isWhitespace {c : Char} (h : c.isWhitespace = true) : isBlank c = true := by
  simp only [Char.isWhitespace, Bool.or_eq_true, decide_eq_true_eq] at h
  rcases h with ((rfl | rfl) | rfl) | rfl <;> decide

/-- A text without the blanks it starts with. -/
def trimStart (text : Text) : Text := text.dropWhile isBlank

/-- A text without the blanks it ends with. -/
def trimEnd (text : Text) : Text := (text.reverse.dropWhile isBlank).reverse

/-- A text without the blanks on its outside. -/
def trim (text : Text) : Text := trimEnd (trimStart text)

/-- A text without any of its blanks. -/
def squeeze (text : Text) : Text := text.filter fun c => !isBlank c

end StepRecorder.Text
