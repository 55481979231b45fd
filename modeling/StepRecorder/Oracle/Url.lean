import StepRecorder.Files.Path
import StepRecorder.Oracle.Host

/-!
Web addresses. An address is split at its marks, its path is freed from dots and doubled back steps,
and what may not stand in an address as it is becomes a percent sign and two digits for each byte.

    http://user@host:8080/v1beta/models/m:generateContent?key=1#top
           └─ authority ┘└──────────── path ────────────┘ query fragment

A text gives no address if its scheme is not one of the web, if its host or its port is none, or if
the address would be too long to be sent.
-/

namespace StepRecorder

/-- An address. -/
structure Url where
  origin : Text
  path : Text
  query : Option Text
  fragment : Option Text
  deriving Repr, DecidableEq

namespace Url

/-- The upper-case hexadecimal digit of a number below sixteen. -/
def digit (n : Nat) : Char := (Nat.digitChar n).toUpper

/-- The escape of a byte. -/
def escapeByte (b : UInt8) : Text := ['%', digit (b.toNat / 16), digit (b.toNat % 16)]

/-- A text with escapes for control characters, characters beyond ASCII and those in `marks`. -/
def escape (marks text : Text) : Text :=
  text.flatMap fun c =>
    if c.toNat < 0x20 || 0x7E < c.toNat || marks.contains c then
      (Text.encodeChar c).flatMap escapeByte
    else [c]

/-- What is escaped in a fragment. -/
def fragmentMarks : Text := " \"<>\x60".toList

/-- What is escaped in a path. -/
def pathMarks : Text := fragmentMarks ++ "#?\x7b\x7d".toList

/-- What is escaped in a query. -/
def queryMarks : Text := " \"#<>\x27".toList

/-- A text before and after the first of some marks. -/
def splitAt (isMark : Char → Bool) (text : Text) : Text × Option Text :=
  match text.dropWhile fun c => !isMark c with
  | [] => (text, none)
  | _ :: rest => (text.takeWhile fun c => !isMark c, some rest)

/-- A piece of a path with its escaped dots written out, if it consists of dots. -/
def dots (piece : Text) : Text :=
  let lower := piece.map Char.toLower
  if lower = "%2e".toList then ['.']
  else if lower = "%2e%2e".toList || lower = ".%2e".toList || lower = "%2e.".toList then ['.', '.']
  else piece

/-- Whether a piece names a drive: a letter and a colon or a bar. -/
def isDrive : Text → Bool
  | [letter, mark] => letter.isAlpha && (mark = ':' || mark = '|')
  | _ => false

/-- The pieces, in reverse, that are kept where two dots follow them. They do not lead out of a
drive. -/
def stepOut : List Text → List Text
  | [] => []
  | piece :: kept => if isDrive piece then piece :: kept else kept

/-- The pieces of a path once its dots are followed, after some that are kept in reverse. -/
def settle : List Text → List Text → List Text
  | kept, [] => kept.reverse
  | kept, [piece] =>
    if dots piece = ['.'] then ([] :: kept).reverse
    else if dots piece = ['.', '.'] then ([] :: stepOut kept).reverse
    else (piece :: kept).reverse
  | kept, piece :: pieces =>
    if dots piece = ['.'] then settle kept pieces
    else if dots piece = ['.', '.'] then settle (stepOut kept) pieces
    else settle (piece :: kept) pieces

/-- A path in its final form. A backslash stands for a slash. -/
def pathOf (text : Text) : Text :=
  let text := text.map fun c => if c = '\\' then '/' else c
  let pieces := settle [] (Path.pieces (text.drop 1))
  '/' :: Text.join ['/'] (pieces.map (escape pathMarks))

/-- The schemes of the web, with the ports that go without saying. -/
def schemes : List (Text × Nat) := [("https:".toList, 443), ("http:".toList, 80)]

/-- Whether a character separates the names of a path. -/
def isSlash (c : Char) : Bool := c = '/' || c = '\\'

/-- The host of a server and its port. Between brackets, a colon belongs to the host. -/
def splitPort (isBracketed : Bool) : Text → Text × Text
  | [] => ([], [])
  | c :: rest =>
    if c = ':' && !isBracketed then ([], rest)
    else
      let found := splitPort (c = '[' || (isBracketed && c ≠ ']')) rest
      (c :: found.1, found.2)

/-- How a port is told, if there is such a port: not at all where it goes without saying. -/
def port? (usual : Nat) (digits : Text) : Option Text := do
  let port ← Text.valueIn? 10 digits
  if 0xFFFF < port then none
  else if digits.isEmpty || port = usual then some []
  else some (':' :: Text.decimal port)

/-- The origin that a text starts with, and what follows it. What stands before the last `@` says
who asks, and not where. -/
def originOf? [Idna] (text : Text) : Option (Text × Text) := do
  let (scheme, usual) ← schemes.find? fun known =>
    (Text.after? known.1 (text.map Char.toLower)).isSome
  let rest := (text.drop scheme.length).dropWhile isSlash
  let authority := rest.takeWhile fun c => !(isSlash c || c = '?' || c = '#')
  let server := (authority.reverse.takeWhile (· ≠ '@')).reverse
  let (host, digits) := splitPort false server
  let port ← port? usual digits
  if Host.isHost host then
    some (scheme ++ "//".toList ++ host ++ port, rest.drop authority.length)
  else none

/-- What a server is asked for. -/
def target (url : Url) : Text :=
  url.path ++ match url.query with
    | some query => '?' :: query
    | none => []

/-- The address as a text. -/
def render (url : Url) : Text :=
  url.origin ++ url.target ++ match url.fragment with
    | some fragment => '#' :: fragment
    | none => []

/-- How long an address can be that a request is sent to. -/
def maxLength : Nat := 65534

/-- The address that a text gives. Blanks and control characters in front of it are passed over, and
so are tabs and line breaks in it. -/
def ofText? [Idna] (text : Text) : Option Url := do
  let text := text.filter fun c => !(c = '\t' || c = '\n' || c = '\r')
  let (origin, rest) ← originOf? (text.dropWhile fun c => c.toNat ≤ 0x20)
  let (rest, fragment) := splitAt (· = '#') rest
  let (path, query) := splitAt (· = '?') rest
  let url : Url :=
    { origin
      path := pathOf path
      query := query.map (escape queryMarks)
      fragment := fragment.map (escape fragmentMarks) }
  if url.render.length ≤ maxLength then some url else none

end Url
end StepRecorder
