import StepRecorder.Files.Disk

/-!
The tree below a directory: everything in it and in its directories, in the order of the paths. In
that order the path of a directory ends with a slash.
-/

namespace StepRecorder.Disk

/-- Something in a tree. -/
inductive Item where
  | directory
  | file (content : Bytes)
  | link (target : Text)
  | device (device : Device)
  deriving Repr, DecidableEq

/-- What an entry shows in a tree. -/
def item (disk : Disk) : Entry → Item
  | .directory => .directory
  | .file id => .file (disk.content id)
  | .link target => .link target
  | .device device => .device device

/-- The path of an entry in a tree. -/
def shown (entry : Entry) (names : List Text) : Text :=
  Text.join ['/'] names ++ if entry = .directory then ['/'] else []

/-- The tree below a place. -/
def tree (disk : Disk) (place : Place) : List (Text × Item) :=
  let below := disk.entries.filterMap fun (found, entry) =>
    (place.isPrefixOf? found).bind fun names =>
      if names.isEmpty then none else some (shown entry names, disk.item entry)
  below.mergeSort fun a b => !List.lex b.1 a.1 fun c d => c.toNat < d.toNat

end StepRecorder.Disk
