import StepRecorder.Text.Basic

/-!
Texts as bytes. `encode` writes a text in UTF-8; `decode?` reads exactly the well-formed byte
sequences; `decodeLossy` reads any bytes and puts U+FFFD for each longest piece that could have
begun a character but did not complete it.

A character of two to four bytes is told by its first byte, which also fixes the range of the
second one; all later bytes are in 80..BF.
-/

namespace StepRecorder

/-- The content of a file. -/
abbrev Bytes := List UInt8

namespace Text

/-- The UTF-8 form of a character. -/
def encodeChar (c : Char) : Bytes :=
  let n := c.toNat
  let tail (unit : Nat) : UInt8 := (0x80 + n / unit % 64).toUInt8
  if n < 0x80 then [n.toUInt8]
  else if n < 0x800 then [(0xC0 + n / 64).toUInt8, tail 1]
  else if n < 0x10000 then [(0xE0 + n / 4096).toUInt8, tail 64, tail 1]
  else [(0xF0 + n / 262144).toUInt8, tail 4096, tail 64, tail 1]

/-- The UTF-8 form of a text. -/
def encode (text : Text) : Bytes := text.flatMap encodeChar

/-- Whether a byte continues a character. -/
def isTail (b : UInt8) : Bool := 0x80 ≤ b && b ≤ 0xBF

/-- The bytes after the first one, and the range of the second, of a character that starts
with `b`. -/
def lead? (b : UInt8) : Option (Nat × UInt8 × UInt8) :=
  if 0xC2 ≤ b && b ≤ 0xDF then some (1, 0x80, 0xBF)
  else if b = 0xE0 then some (2, 0xA0, 0xBF)
  else if b = 0xED then some (2, 0x80, 0x9F)
  else if 0xE1 ≤ b && b ≤ 0xEF then some (2, 0x80, 0xBF)
  else if b = 0xF0 then some (3, 0x90, 0xBF)
  else if b = 0xF4 then some (3, 0x80, 0x8F)
  else if 0xF1 ≤ b && b ≤ 0xF3 then some (3, 0x80, 0xBF)
  else none

/-- The bits that a first byte holds of a character with `more` further bytes. -/
def leadBits (b : UInt8) (more : Nat) : Nat := b.toNat % (64 >>> more)

/-- The first character of some bytes, or nothing if none is well-formed there; with it the bytes
left. Of a piece that breaks off, only the bytes that could begin a character are passed over. -/
def decodeOne (b : UInt8) (rest : Bytes) : Option Char × Bytes :=
  if b < 0x80 then (some (Char.ofNat b.toNat), rest)
  else
    match lead? b with
    | none => (none, rest)
    | some (more, lo, hi) =>
      match rest with
      | [] => (none, [])
      | b2 :: rest2 =>
        if !(lo ≤ b2 && b2 ≤ hi) then (none, rest)
        else
          let n2 := leadBits b more * 64 + b2.toNat % 64
          if more = 1 then (some (Char.ofNat n2), rest2)
          else
            match rest2 with
            | [] => (none, [])
            | b3 :: rest3 =>
              if !isTail b3 then (none, rest2)
              else
                let n3 := n2 * 64 + b3.toNat % 64
                if more = 2 then (some (Char.ofNat n3), rest3)
                else
                  match rest3 with
                  | [] => (none, [])
                  | b4 :: rest4 =>
                    if !isTail b4 then (none, rest3)
                    else (some (Char.ofNat (n3 * 64 + b4.toNat % 64)), rest4)

theorem decodeOne_length (b : UInt8) (rest : Bytes) :
    (decodeOne b rest).2.length ≤ rest.length := by
  unfold decodeOne
  repeat' split
  all_goals simp_all <;> omega

/-- The characters of some bytes, one `none` for each ill-formed piece. -/
def decodePieces : Bytes → List (Option Char)
  | [] => []
  | b :: rest =>
    have := decodeOne_length b rest
    (decodeOne b rest).1 :: decodePieces (decodeOne b rest).2
termination_by bytes => bytes.length
decreasing_by simp; omega

/-- The text of well-formed bytes. -/
def decode? (bytes : Bytes) : Option Text := (decodePieces bytes).mapM id

/-- The replacement character. -/
def replacement : Char := '\uFFFD'

/-- The text of any bytes. -/
def decodeLossy (bytes : Bytes) : Text :=
  (decodePieces bytes).map fun piece => piece.getD replacement

end Text
end StepRecorder
