import StepRecorder.Text.Utf8

/-!
Paths as texts. A path leads from name to name, and the names stand between slashes. A slash at the
end and a dot in the place of a name say nothing about where the last name is, so the parent and the
last name of a path are told without them. What stands before the last name is kept as written.
-/

namespace StepRecorder.Path

/-- The pieces of a text between its slashes. -/
def pieces : Text → List Text
  | [] => [[]]
  | c :: rest =>
    if c = '/' then [] :: pieces rest
    else
      match pieces rest with
      | [] => [[c]]
      | piece :: more => (c :: piece) :: more

/-- The names of a path. -/
def names (path : Text) : List Text := (pieces path).filter fun piece => !piece.isEmpty

/-- Whether a path starts at the root. -/
def isAbsolute (path : Text) : Bool := path.head? = some '/'

/-- Whether a path ends with a slash, and so has to lead to a directory. -/
def endsInSlash (path : Text) : Bool := path.getLast? = some '/'

/-- The reverse of a path without the slashes and dots behind its last name. -/
def dropTail : Text → Text
  | '.' :: '/' :: rest => dropTail ('/' :: rest)
  | '/' :: c :: rest => dropTail (c :: rest)
  | path => path

/-- The parent of a path and its last name, which can be a dot or two. -/
def split? (path : Text) : Option (Text × Text) :=
  let path := dropTail path.reverse
  if path.isEmpty || path = ['/'] then none
  else
    some ((dropTail (path.dropWhile (· ≠ '/'))).reverse, (path.takeWhile (· ≠ '/')).reverse)

/-- The parent of a path, unless it is the place where paths start. -/
def parent? (path : Text) : Option Text :=
  (split? path).bind fun (parent, _) => if parent.isEmpty then none else some parent

/-- The last name of a path that leads to a name. -/
def fileName? (path : Text) : Option Text :=
  (split? path).bind fun (_, name) => if name = ['.'] || name = ['.', '.'] then none else some name

/-- The path of a name in a directory. -/
def join (directory name : Text) : Text :=
  if directory.isEmpty || endsInSlash directory then directory ++ name
  else directory ++ '/' :: name

/-- The path beside a path that has another last name. -/
def sibling (path name : Text) : Text :=
  match fileName? path with
  | none => join path name
  | some _ => join (((split? path).map (·.1)).getD []) name

end StepRecorder.Path
