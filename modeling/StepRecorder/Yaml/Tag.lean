import StepRecorder.Text.Utf8
import StepRecorder.Yaml.Cursor

/-!
Tags: a handle, which a document can give a meaning of its own, and a suffix. A tag in angle
brackets has no handle. A suffix can escape any bytes, so a tag is bytes and need not be a text; the
first null byte of a suffix ends it.
-/

namespace StepRecorder.Yaml

/-- A tag as written. -/
structure Tag where
  handle : Text
  suffix : Bytes
  deriving Repr, DecidableEq

namespace Tag

/-- The tag that is a lone exclamation mark. -/
def mark : Bytes := Text.encode ['!']

/-- What the tags start with that are the same in all documents. -/
def common : Bytes := Text.encode "tag:yaml.org,2002:".toList

/-- Some bytes up to the first null byte. -/
def untilNull (bytes : Bytes) : Bytes := bytes.takeWhile (· ≠ 0)

/-- The characters of a suffix, beside words and escapes. -/
def isUriMark (c : Char) : Bool := c ∈ ";/?:@&=+$.!~*\x27()".toList

/-- The characters that only a suffix in angle brackets can have. -/
def isVerbatimMark (c : Char) : Bool := c ∈ ",[]".toList

/-- The byte of an escape that starts here. -/
def octet? : Text → Option Nat
  | '%' :: a :: b :: _ => Text.valueIn? 16 [a, b]
  | _ => none

/-- The number of bytes of the character that a byte starts. -/
def width? (octet : Nat) : Option Nat :=
  if octet < 0x80 then some 1
  else if 0xC0 ≤ octet && octet ≤ 0xDF then some 2
  else if 0xE0 ≤ octet && octet ≤ 0xEF then some 3
  else if 0xF0 ≤ octet && octet ≤ 0xF7 then some 4
  else none

/-- A number of escapes of further bytes of a character. -/
def tail? : Nat → Text → Option Bytes
  | 0, _ => some []
  | more + 1, text => do
    let octet ← octet? text
    if 0x80 ≤ octet && octet ≤ 0xBF then (tail? more (text.drop 3)).map (octet.toUInt8 :: ·)
    else none

/-- The bytes of an escaped character. -/
def escaped? (text : Text) : Option Bytes := do
  let octet ← octet? text
  let width ← width? octet
  (tail? (width - 1) (text.drop 3)).map (octet.toUInt8 :: ·)

/-- Past the characters of a suffix. -/
def uriFrom (verbatim : Bool) : Nat → Bytes → Cursor → Option (Bytes × Cursor)
  | 0, _, _ => none
  | bound + 1, taken, cursor =>
    match cursor.rest with
    | [] => some (taken, cursor)
    | c :: _ =>
      if c = '%' then
        match escaped? cursor.rest with
        | none => none
        | some bytes =>
          uriFrom verbatim bound (taken ++ bytes) (cursor.advance (3 * bytes.length))
      else if isWord c || isUriMark c || (verbatim && isVerbatimMark c) then
        uriFrom verbatim bound (taken ++ Text.encodeChar c) (cursor.advance 1)
      else some (taken, cursor)

/-- Past the suffix that starts here, which can be empty. -/
def uri (verbatim : Bool) (cursor : Cursor) : Option (Bytes × Cursor) :=
  uriFrom verbatim (cursor.rest.length + 1) [] cursor

/-- Past the suffix that starts here, which has to hold something. -/
def suffix? (verbatim : Bool) (cursor : Cursor) : Option (Bytes × Cursor) := do
  let (suffix, cursor) ← uri verbatim cursor
  if suffix.isEmpty then none else some (untilNull suffix, cursor)

/-- Past the handle that starts here: an exclamation mark, a word and, perhaps, another mark. -/
def handle? (cursor : Cursor) : Option (Text × Cursor) :=
  if !cursor.at? '!' then none
  else
    let (word, cursor) := (cursor.advance 1).span isWord
    if cursor.at? '!' then some ('!' :: word ++ ['!'], cursor.advance 1)
    else some ('!' :: word, cursor)

/-- Whether a handle of a tag is one that a directive can give a meaning to. -/
def isNamed (handle : Text) : Bool := 1 < handle.length && handle.getLast? == some '!'

/-- Past the tag that starts here. -/
def scan? (inFlow : Bool) (cursor : Cursor) : Option (Tag × Cursor) := do
  let (tag, cursor) ←
    if cursor.rest.drop 1 |>.head? |> (· == some '<') then do
      let (suffix, cursor) ← suffix? true (cursor.advance 2)
      if cursor.at? '>' then some (⟨[], suffix⟩, cursor.advance 1) else none
    else do
      let (handle, cursor) ← handle? cursor
      if isNamed handle then
        let (suffix, cursor) ← suffix? false cursor
        some (⟨handle, suffix⟩, cursor)
      else
        let (suffix, cursor) ← uri false cursor
        let suffix := untilNull (Text.encode (handle.drop 1) ++ suffix)
        some (if suffix.isEmpty then ⟨[], mark⟩ else ⟨['!'], suffix⟩, cursor)
  if isOpen cursor.rest || (inFlow && cursor.at? ',') then some (tag, cursor) else none

end Tag
end StepRecorder.Yaml
