import StepRecorder.Yaml.Scalar.Fold

/-!
Scalars between quotes. Between single quotes only a doubled quote is special; between double quotes
a backslash starts an escape, or joins two lines where it ends one.
-/

namespace StepRecorder.Yaml.Quoted

/-- The character of an escape of one letter. -/
def short? : Char → Option Char
  | '0' => some '\x00'
  | 'a' => some '\x07'
  | 'b' => some '\x08'
  | 't' => some '\t'
  | '\t' => some '\t'
  | 'n' => some '\n'
  | 'v' => some '\x0B'
  | 'f' => some '\x0C'
  | 'r' => some '\r'
  | 'e' => some '\x1B'
  | ' ' => some ' '
  | '"' => some '"'
  | '/' => some '/'
  | '\\' => some '\\'
  | 'N' => some '\u0085'
  | '_' => some '\u00A0'
  | 'L' => some '\u2028'
  | 'P' => some '\u2029'
  | _ => none

/-- The number of digits of an escape by code point. -/
def digits? : Char → Option Nat
  | 'x' => some 2
  | 'u' => some 4
  | 'U' => some 8
  | _ => none

/-- The character of the escape that follows a backslash, and the length of the escape. -/
def escape? : Text → Option (Char × Nat)
  | [] => none
  | c :: rest =>
    match short? c with
    | some c => some (c, 1)
    | none => do
      let count ← digits? c
      let digits := rest.take count
      if digits.length < count then none
      else
        let value ← Text.valueIn? 16 digits
        if (0xD800 ≤ value && value ≤ 0xDFFF) || 0x10FFFF < value then none
        else some (Char.ofNat value, count + 1)

/-- Past a word between quotes; with it, its text, and whether a backslash ended its line. -/
def word? (quote : Char) : Nat → Text → Cursor → Option (Text × Bool × Cursor)
  | 0, _, _ => none
  | bound + 1, text, cursor =>
    match cursor.rest with
    | [] => some (text, false, cursor)
    | c :: rest =>
      if isGap c || isBreak c then some (text, false, cursor)
      else if quote = '\x27' && c = quote && rest.head? = some quote then
        word? quote bound (text ++ [quote]) (cursor.advance 2)
      else if c = quote then some (text, false, cursor)
      else if quote = '"' && c = '\\' then
        if (rest.head?.map isBreak).getD false then some (text, true, (cursor.advance 1).skipBreak)
        else
          match escape? rest with
          | none => none
          | some (c, length) => word? quote bound (text ++ [c]) (cursor.advance (length + 1))
      else word? quote bound (text ++ [c]) (cursor.advance 1)

/-- Past a scalar between quotes, after a part of it. -/
def scanFrom (quote : Char) : Nat → Text → Cursor → Option (Text × Cursor)
  | 0, _, _ => none
  | bound + 1, text, cursor => do
    if cursor.atDocumentMark || cursor.rest.isEmpty then none
    else
      let (text, joins, cursor) ← word? quote (cursor.rest.length + 1) text cursor
      if cursor.at? quote then some (text, cursor.advance 1)
      else
        let (fold, cursor) ← Fold.scan 0 (cursor.rest.length + 1) { broken := joins } cursor
        scanFrom quote bound (text ++ fold.joined) cursor

/-- Past the scalar that starts here with its quote. -/
def scan (quote : Char) (cursor : Cursor) : Option (Text × Cursor) :=
  scanFrom quote (cursor.rest.length + 1) [] (cursor.advance 1)

end StepRecorder.Yaml.Quoted
