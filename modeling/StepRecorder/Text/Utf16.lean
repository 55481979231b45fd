import StepRecorder.Text.Utf8

/-!
Texts as bytes of which the first ones can tell the encoding: a mark for UTF-8 or for UTF-16 in
either order of bytes. Without a mark, bytes are UTF-8. What is ill-formed becomes U+FFFD.
-/

namespace StepRecorder.Text

/-- The units of two bytes each, and whether a byte is left over. -/
def unitsOf (unit : UInt8 → UInt8 → Nat) : Bytes → List Nat × Bool
  | a :: b :: rest => (unit a b :: (unitsOf unit rest).1, (unitsOf unit rest).2)
  | [_] => ([], true)
  | [] => ([], false)

/-- Whether a unit is the first of a pair. -/
def isLeading (unit : Nat) : Bool := 0xD800 ≤ unit && unit ≤ 0xDBFF

/-- Whether a unit is the second of a pair. -/
def isTrailing (unit : Nat) : Bool := 0xDC00 ≤ unit && unit ≤ 0xDFFF

/-- The text of some units. A unit that lacks its other half is ill-formed; so is a byte that is
left over, together with such a unit before it. -/
def ofUnits (hasByte : Bool) : List Nat → Text
  | [] => if hasByte then [replacement] else []
  | [unit] =>
    if isLeading unit then [replacement]
    else (if isTrailing unit then replacement else Char.ofNat unit) :: ofUnits hasByte []
  | unit :: next :: rest =>
    if isLeading unit then
      if isTrailing next then
        Char.ofNat (0x10000 + (unit - 0xD800) * 0x400 + (next - 0xDC00)) :: ofUnits hasByte rest
      else replacement :: ofUnits hasByte (next :: rest)
    else
      (if isTrailing unit then replacement else Char.ofNat unit) :: ofUnits hasByte (next :: rest)

/-- The text of any bytes in UTF-16. -/
def decodeUnits (unit : UInt8 → UInt8 → Nat) (bytes : Bytes) : Text :=
  let (units, hasByte) := unitsOf unit bytes
  ofUnits hasByte units

/-- The text of any bytes in the encoding that they start with the mark of. -/
def decodeMarked : Bytes → Text
  | 0xEF :: 0xBB :: 0xBF :: rest => decodeLossy rest
  | 0xFF :: 0xFE :: rest => decodeUnits (fun a b => a.toNat + 256 * b.toNat) rest
  | 0xFE :: 0xFF :: rest => decodeUnits (fun a b => 256 * a.toNat + b.toNat) rest
  | bytes => decodeLossy bytes

end StepRecorder.Text
