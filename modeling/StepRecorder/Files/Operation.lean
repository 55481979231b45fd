import StepRecorder.Files.Disk
import StepRecorder.Ordered

/-!
Operations on a disk. One that fails leaves the disk as it was; only `makeDirectories`, which is a
series of others, keeps what was made before it failed.

Main statements: `at?_put_self`, `at?_put_of_ne` and `at?_clear` say what stands at a place after a
change of places; `content_write_self` and `content_write_of_ne` say what a write does to files, and
`overwrite_end` that a write at the end of a content goes behind it.
-/

namespace StepRecorder

/-- What a file that is open reads from or writes to. -/
inductive Handle where
  | directory
  | file (id : Nat)
  | device (device : Device)
  deriving Repr, DecidableEq

namespace Handle

/-- The content to be read; a device has none. -/
def content (disk : Disk) : Handle → Except SystemError Bytes
  | .directory => .error .isDirectory
  | .file id => .ok (disk.content id)
  | .device _ => .ok []

/-- The content of a file once some bytes were written at a position. A gap before it is filled with
zeros. -/
def overwrite (content : Bytes) (position : Nat) (bytes : Bytes) : Bytes :=
  content.take position ++ List.replicate (position - content.length) 0 ++ bytes
    ++ content.drop (position + bytes.length)

theorem overwrite_end (content bytes : Bytes) :
    overwrite content content.length bytes = content ++ bytes := by
  simp [overwrite]

/-- Writes some bytes at a position. -/
def write (disk : Disk) (position : Nat) (bytes : Bytes) : Handle → Disk
  | .file id =>
    let content := overwrite (disk.content id) position bytes
    { disk with contents := Ordered.put id content disk.contents }
  | _ => disk

theorem content_write_self (disk : Disk) (position : Nat) (bytes : Bytes) (id : Nat) :
    (write disk position bytes (.file id)).content id =
      overwrite (disk.content id) position bytes := by
  simp [write, Disk.content]

theorem content_write_of_ne (disk : Disk) (position : Nat) (bytes : Bytes) {id other : Nat}
    (h : other ≠ id) :
    (write disk position bytes (.file id)).content other = disk.content other := by
  simp [write, Disk.content, Ordered.lookup_put_of_ne h]

theorem entries_write (disk : Disk) (position : Nat) (bytes : Bytes) (handle : Handle) :
    (write disk position bytes handle).entries = disk.entries := by
  cases handle <;> rfl

/-- What becomes known of a write when it is waited for. -/
def written : Handle → Except SystemError Unit
  | .device .full => .error .noSpace
  | _ => .ok ()

/-- What becomes of the request that all writes be permanent. -/
def synced : Handle → Except SystemError Unit
  | .device _ => .error .invalid
  | _ => .ok ()

end Handle

namespace Disk

/-- What can be read where a path leads. -/
def openRead? (disk : Disk) (path : Text) : Except SystemError Handle := do
  match ← disk.entry? path with
  | .directory => .ok .directory
  | .file id => .ok (.file id)
  | .device device => .ok (.device device)
  | .link _ => .error .tooManyLinks

/-- The content of the file where a path leads. -/
def read? (disk : Disk) (path : Text) : Except SystemError Bytes := do
  (← disk.openRead? path).content disk

/-- The disk with something at a place. -/
def put (disk : Disk) (place : Place) (entry : Entry) : Disk :=
  { disk with entries := Ordered.put place entry disk.entries }

theorem at?_put_self (disk : Disk) {place : Place} (h : place ≠ []) (entry : Entry) :
    (disk.put place entry).at? place = some entry := by
  simp [at?, put, h]

theorem at?_put_of_ne (disk : Disk) {place other : Place} (h : other ≠ place) (entry : Entry) :
    (disk.put place entry).at? other = disk.at? other := by
  simp [at?, put, Ordered.lookup_put_of_ne h]

/-- The disk with a new, empty file at a place. -/
def putFile (disk : Disk) (place : Place) : Disk :=
  { disk.put place (.file disk.fresh) with
    contents := Ordered.put disk.fresh [] disk.contents
    fresh := disk.fresh + 1 }

/-- Opens a file for writing where a path leads; a missing one is made. -/
def openWrite? (disk : Disk) (truncates : Bool) (path : Text) :
    Except SystemError (Disk × Handle) := do
  let place ← disk.filePlace? path
  match disk.at? place with
  | none => .ok (disk.putFile place, .file disk.fresh)
  | some .directory => .error .isDirectory
  | some (.file id) =>
    let contents := if truncates then Ordered.put id [] disk.contents else disk.contents
    .ok ({ disk with contents }, .file id)
  | some (.device device) => .ok (disk, .device device)
  | some (.link _) => .error .tooManyLinks

/-- Gives the file where a path leads a new content. -/
def replace? (disk : Disk) (path : Text) (bytes : Bytes) : Except SystemError Disk := do
  let (disk, handle) ← disk.openWrite? true path
  .ok (handle.write disk 0 bytes)

/-- Puts some bytes behind the content of the file where a path leads. -/
def append? (disk : Disk) (path : Text) (bytes : Bytes) : Except SystemError Disk := do
  let (disk, handle) ← disk.openWrite? false path
  .ok (handle.write disk (← handle.content disk).length bytes)

/-- Makes a directory. -/
def makeDirectory? (disk : Disk) (path : Text) : Except SystemError Disk := do
  let place ← disk.ownPlace? path
  if (disk.at? place).isSome then .error .exists else .ok (disk.put place .directory)

/-- Makes a link. -/
def makeLink? (disk : Disk) (target path : Text) : Except SystemError Disk := do
  let place ← disk.ownPlace? path
  if (disk.at? place).isSome then .error .exists else .ok (disk.put place (.link target))

/-- Makes a directory and all those on the way to it, of a limited number. -/
def makeDirectoriesWithin : Nat → Disk → Text → Disk × Except SystemError Unit
  | 0, disk, _ => (disk, .error .noEntry)
  | bound + 1, disk, path =>
    let unlessThere (disk : Disk) (error : SystemError) : Disk × Except SystemError Unit :=
      (disk, if disk.isDirectory path then .ok () else .error error)
    match disk.makeDirectory? path with
    | .ok disk => (disk, .ok ())
    | .error .noEntry =>
      let (disk, result) := match Path.parent? path with
        | some parent => makeDirectoriesWithin bound disk parent
        | none => (disk, .ok ())
      match result with
      | .error error => (disk, .error error)
      | .ok () =>
        match disk.makeDirectory? path with
        | .ok disk => (disk, .ok ())
        | .error error => unlessThere disk error
    | .error error => unlessThere disk error

/-- Makes a directory and all those on the way to it. -/
def makeDirectories (disk : Disk) (path : Text) : Disk × Except SystemError Unit :=
  makeDirectoriesWithin (path.length + 1) disk path

/-- Makes the directories on the way to a path. -/
def makeParents (disk : Disk) (path : Text) : Disk × Except SystemError Unit :=
  match Path.parent? path with
  | some parent => disk.makeDirectories parent
  | none => (disk, .ok ())

/-- The disk without what stands at a place and below it. -/
def clear (disk : Disk) (place : Place) : Disk :=
  { disk with entries := disk.entries.filter fun entry => !place.isPrefixOf entry.1 }

theorem at?_clear (disk : Disk) (place : Place) {other : Place} (h : other ≠ []) :
    (disk.clear place).at? other = if place.isPrefixOf other then none else disk.at? other := by
  have := Ordered.lookup_filter (fun found => !place.isPrefixOf found) other disk.entries
  simp only [at?, clear, h, if_false]
  rw [this]
  cases place.isPrefixOf other <;> rfl

/-- Removes what stands where a path leads, with all below it. -/
def remove? (disk : Disk) (path : Text) : Except SystemError Disk := do
  let place ← disk.ownPlace? path
  if (disk.at? place).isSome then .ok (disk.clear place) else .error .noEntry

/-- Moves a file, a link or a device to the place of another one. A link is not followed. -/
def rename? (disk : Disk) (path target : Text) : Except SystemError Disk := do
  let place ← disk.ownPlace? path
  let goal ← disk.ownPlace? target
  match disk.at? place, disk.at? goal with
  | none, _ => .error .noEntry
  | some .directory, _ | _, some .directory => .error .isDirectory
  | some entry, _ => if place = goal then .ok disk else .ok ((disk.clear place).put goal entry)

end Disk
end StepRecorder
