import StepRecorder.Text.Numeral
import StepRecorder.Text.Octet
import StepRecorder.Text.Utf8

/-!
Hosts: what says in a web address which server is meant. A host is a name, a number with dots or,
between brackets, a number with colons.

    example.org     127.0.0.1     0x7f.1     [2001:db8::1]     [::ffff:127.0.0.1]

A name whose last label is a number is no name, so it has to be such a number as a whole. Names that
are not plain ASCII have an ASCII form, which is found in large tables; they are a parameter.
-/

namespace StepRecorder

/-- The tables of international names: the ASCII form of a name, given by its bytes. -/
class Idna where
  ascii? : Bytes → Option Text

/-- Without tables there are no such names. -/
instance : Idna := ⟨fun _ => none⟩

namespace Host

/-- The bytes of a name, in which an escape stands for its byte. -/
def unescape : Text → Bytes
  | [] => []
  | '%' :: a :: b :: rest =>
    match Text.hexValue? a, Text.hexValue? b with
    | some high, some low => UInt8.ofNat (16 * high + low) :: unescape rest
    | _, _ => Text.encodeChar '%' ++ unescape (a :: b :: rest)
  | c :: rest => Text.encodeChar c ++ unescape rest

/-- Whether a label stands for one with other characters. -/
def isEncoded (label : Text) : Bool := (Text.after? "xn--".toList label).isSome

/-- A name in lower case, and in ASCII. -/
def domain? [Idna] (name : Text) : Option Text :=
  let bytes := unescape name
  let plain := (Text.ofOctets bytes).map Char.toLower
  if bytes.all (· < 0x80) && !(plain.splitOn '.').any isEncoded then some plain
  else Idna.ascii? bytes

/-- What may not stand in a name. -/
def marks : Text := "\"#%/:<>?@[\\]^\x60\x7b|\x7d".toList

/-- Whether a character may stand in a name in ASCII. -/
def isNameChar (c : Char) : Bool := 0x20 < c.toNat && c.toNat < 0x7F && !marks.contains c

/-! ### Numbers with dots -/

/-- The value of a label that is a number, in the base that its beginning tells. -/
def value? : Text → Option Nat
  | [] => none
  | '0' :: 'x' :: digits => Text.valueIn? 16 digits
  | '0' :: c :: digits => Text.valueIn? 8 (c :: digits)
  | digits => Text.valueIn? 10 digits

/-- The labels of a name; a dot at its end has none behind it. -/
def labels (domain : Text) : List Text :=
  let labels := domain.splitOn '.'
  if labels.getLast? = some [] then labels.dropLast else labels

/-- Whether the last label of a name is a number, be it in a base that it has no digits of. -/
def endsInNumber (domain : Text) : Bool :=
  (labels domain).getLast?.any fun label =>
    (value? label).isSome || (!label.isEmpty && label.all Char.isDigit)

/-- Whether a name is a number with dots: up to three bytes, and the rest of four. -/
def isDotted (domain : Text) : Bool :=
  match (labels domain).mapM value? with
  | some values =>
    values.length ≤ 4 && values.dropLast.all (· ≤ 255)
      && values.getLast?.any (· < Nat.pow 256 (5 - values.length))
  | none => false

/-! ### Numbers with colons -/

/-- Whether a text is a group of hexadecimal digits. -/
def isGroup (text : Text) : Bool :=
  !text.isEmpty && text.length ≤ 4 && text.all fun c => (Text.hexValue? c).isSome

/-- Whether a text is four bytes in decimal, with dots between them and no zeros in front. -/
def isQuad (text : Text) : Bool :=
  let bytes := text.splitOn '.'
  bytes.length = 4 && bytes.all fun digits =>
    (digits.length = 1 || digits.head?.any (· ≠ '0')) && (Text.valueIn? 10 digits).any (· ≤ 255)

/-- How many groups a text consists of. At the end of a number, four bytes can stand for two. -/
def groups? (isEnd : Bool) (text : Text) : Option Nat :=
  let pieces := text.splitOn ':'
  if text.isEmpty then some 0
  else if pieces.all isGroup then some pieces.length
  else if isEnd && pieces.dropLast.all isGroup && pieces.getLast?.any isQuad then
    some (pieces.length + 1)
  else none

/-- A text before and after the first two colons in a row. -/
def halves? : Text → Option (Text × Text)
  | [] => none
  | ':' :: ':' :: rest => some ([], rest)
  | c :: rest => (halves? rest).map fun found => (c :: found.1, found.2)

/-- Whether a text is a number with colons: eight groups, some of which two colons can stand for. -/
def isColoned (text : Text) : Bool :=
  match halves? text with
  | none => groups? true text = some 8
  | some (before, behind) =>
    match groups? false before, groups? true behind with
    | some first, some last => first + last < 8
    | _, _ => false

/-- Whether a text is a host. -/
def isHost [Idna] : Text → Bool
  | '[' :: rest => rest.getLast? = some ']' && isColoned rest.dropLast
  | name =>
    (domain? name).any fun domain =>
      !domain.isEmpty && domain.all isNameChar && (!endsInNumber domain || isDotted domain)

end Host
end StepRecorder
