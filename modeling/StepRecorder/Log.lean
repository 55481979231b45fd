import StepRecorder.Text.Utf8

/-!
The lines of a log, as bytes and as texts. A line is complete once its line feed is there; what
follows the last line feed is the beginning of a line.

Main statement: `split_eq` says that the complete lines with their line feeds, and the beginning of
the next one, make up the log.
-/

namespace StepRecorder.Log

/-- A line feed. -/
def lineFeed : UInt8 := 10

/-- A carriage return. -/
def carriageReturn : UInt8 := 13

/-- A complete line, without its line feed, as text. A carriage return at its end is dropped. -/
def lineText (line : Bytes) : Text :=
  Text.decodeLossy (if line.getLast? = some carriageReturn then line.dropLast else line)

/-- The complete lines of a log, and the beginning of the next one. -/
def split : Bytes → List Bytes × Bytes
  | [] => ([], [])
  | b :: log =>
    let (lines, rest) := split log
    if b = lineFeed then ([] :: lines, rest)
    else
      match lines with
      | [] => ([], b :: rest)
      | line :: lines => ((b :: line) :: lines, rest)

theorem split_eq (log : Bytes) :
    log = (split log).1.flatMap (· ++ [lineFeed]) ++ (split log).2 := by
  induction log with
  | nil => rfl
  | cons b log ih =>
    rcases h : split log with ⟨lines, rest⟩
    rw [h] at ih
    by_cases hb : b = lineFeed
    · simpa [split, h, hb] using ih
    · cases lines with
      | nil => simpa [split, h, hb] using ih
      | cons line lines => simpa [split, h, hb] using ih

end StepRecorder.Log
