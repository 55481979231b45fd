import StepRecorder.Files.Path
import StepRecorder.Files.SystemError

/-!
A disk: what stands at which place, and what files hold. A file is told apart from the places that
lead to it, so that a file that is open stays the same when its place is taken by another one.

    places     contents
    a  ─────▶  0: ...        a rename moves the arrow, a removal takes it away;
    b  ─────▶  1: ...        neither touches the contents

Following a path goes from name to name. A link on the way is replaced by its target; what becomes
of the last name depends on what the path is followed for.
-/

namespace StepRecorder

/-- A place: the names that lead to it from the root. -/
abbrev Place := List Text

/-- The two devices that can stand for a file. -/
inductive Device where
  /-- Whatever is written to it finds no space. -/
  | full
  /-- Whatever is written to it is gone. -/
  | null
  deriving Repr, DecidableEq

/-- What stands at a place. -/
inductive Entry where
  | directory
  | file (id : Nat)
  | link (target : Text)
  | device (device : Device)
  deriving Repr, DecidableEq

/-- A disk. The root is a directory at any time. -/
structure Disk where
  entries : List (Place × Entry) := []
  contents : List (Nat × Bytes) := []
  /-- The first number that no file has had. -/
  fresh : Nat := 0
  /-- Where paths start that do not start at the root. -/
  current : Place := []
  deriving Repr

namespace Disk

/-- A disk with the two devices and an empty directory, where paths start. -/
def ofCurrent (current : Text) : Disk :=
  { entries :=
      [(["dev".toList], .directory), (["dev".toList, "full".toList], .device .full),
        (["dev".toList, "null".toList], .device .null), ([current], .directory)]
    current := [current] }

/-- What stands at a place. -/
def at? (disk : Disk) (place : Place) : Option Entry :=
  if place = [] then some .directory else disk.entries.lookup place

/-- The content of a file. -/
def content (disk : Disk) (id : Nat) : Bytes := (disk.contents.lookup id).getD []

/-- What a path is followed for. -/
inductive Aim where
  /-- What a last link leads to. A slash at the end asks for a directory. -/
  | target
  /-- The place of the last name, also where a link stands there. -/
  | place
  /-- A file that is made where none is. A link is followed, and a slash behind the name of the file
  is refused before the name is looked up. -/
  | file
  deriving Repr, DecidableEq

/-- Where following some names stops. -/
inductive Stop where
  /-- All names were followed; whether anything stands there is another question. -/
  | at (place : Place)
  /-- A link has to be followed, and then the names behind it. -/
  | link (base : Place) (target : Text) (behind : List Text)
  | failed (error : SystemError)

/-- How many bytes a name can have. -/
def maxNameLength : Nat := 255

/-- Follows names from a directory, up to the next link. An empty name stands for a slash at the end
of a path. -/
def descend (look : Place → Option Entry) (aim : Aim) (base : Place) : List Text → Stop
  | [] => .at base
  | name :: behind =>
    if name = [] || name = ['.'] then descend look aim base behind
    else if name = ['.', '.'] then descend look aim base.dropLast behind
    else if aim = .file && behind = [[]] then .failed .isDirectory
    else if maxNameLength < (Text.encode name).length then .failed .nameTooLong
    else
      let place := base ++ [name]
      match look place with
      | some .directory => descend look aim place behind
      | some (.link target) =>
        if behind.isEmpty && aim = .place then .at place else .link base target behind
      | some _ => if behind.isEmpty then .at place else .failed .notDirectory
      | none => if behind.isEmpty then .at place else .failed .noEntry

/-- How many links can be on a way. -/
def maxLinks : Nat := 40

/-- The names of a path, with an empty one for the slash that it may end with. -/
def steps (path : Text) : List Text :=
  Path.names path ++ if Path.endsInSlash path then [[]] else []

/-- Follows names from a directory, through a limited number of links. -/
def walk (look : Place → Option Entry) (aim : Aim) :
    Nat → Place → List Text → Except SystemError Place
  | links, base, names =>
    match descend look aim base names, links with
    | .at place, _ => .ok place
    | .failed error, _ => .error error
    | .link _ _ _, 0 => .error .tooManyLinks
    | .link base target behind, links + 1 =>
      if target.isEmpty then .error .noEntry
      else
        walk look aim links (if Path.isAbsolute target then [] else base)
          (steps target ++ behind)

/-- How many bytes a path can have. -/
def maxPathLength : Nat := 4095

/-- Whether a path can be asked for at all. -/
def refused? (path : Text) : Option SystemError :=
  if '\x00' ∈ path then some .nulByte
  else if path.isEmpty then some .noEntry
  else if maxPathLength < (Text.encode path).length then some .nameTooLong
  else none

/-- Follows a path. -/
def follow (disk : Disk) (aim : Aim) (path : Text) (names : List Text) :
    Except SystemError Place :=
  match refused? path with
  | some error => .error error
  | none => walk disk.at? aim maxLinks (if Path.isAbsolute path then [] else disk.current) names

/-- The place that a path leads to, through all links. -/
def place? (disk : Disk) (path : Text) : Except SystemError Place :=
  disk.follow .target path (steps path)

/-- The place where a path leads to a file, or would if one were made there. -/
def filePlace? (disk : Disk) (path : Text) : Except SystemError Place :=
  disk.follow .file path (steps path)

/-- The place of the last name of a path, where a link can stand. -/
def ownPlace? (disk : Disk) (path : Text) : Except SystemError Place :=
  disk.follow .place path (Path.names path)

/-- What stands where a path leads. -/
def entry? (disk : Disk) (path : Text) : Except SystemError Entry := do
  let place ← disk.place? path
  match disk.at? place with
  | some entry => .ok entry
  | none => .error .noEntry

/-- Whether a path leads to something. -/
def exists? (disk : Disk) (path : Text) : Bool := (disk.entry? path).isOk

/-- Whether a path leads to a directory. -/
def isDirectory (disk : Disk) (path : Text) : Bool :=
  match disk.entry? path with
  | .ok .directory => true
  | _ => false

end Disk
end StepRecorder
