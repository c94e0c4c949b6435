/-!
# Trees of files

A `FileTree` is a directory or a file. `FileTree.find` follows a path: `.` stays, `..` goes up and
stays at the root, and only a directory has anything below it, so a slash at the end of a path asks
for a directory.
-/

namespace RunControl

/-- A file with its bytes, or a directory with named entries. -/
inductive FileTree
  | file (bytes : ByteArray)
  | directory (entries : List (String × FileTree))

/-- Why a path leads to no file or a file cannot be read. -/
inductive FileError
  | notFound
  | notDirectory
  | isDirectory
  | nameTooLong
  | nulInName
  | notText
deriving DecidableEq

def FileError.message : FileError → String
  | notFound => "No such file or directory (os error 2)"
  | notDirectory => "Not a directory (os error 20)"
  | isDirectory => "Is a directory (os error 21)"
  | nameTooLong => "File name too long (os error 36)"
  | nulInName => "file name contained an unexpected NUL byte"
  | notText => "stream did not contain valid UTF-8"

namespace FileTree

/-- The names between the slashes of a path. -/
def components (path : String) : List String :=
  (path.toList.splitOn '/').map String.ofList

/-- Follow names from a place, given with the places above it. -/
def walk : FileTree → List FileTree → List String → Except FileError (FileTree × List FileTree)
  | here, above, [] => .ok (here, above)
  | file _, _, _ :: _ => .error .notDirectory
  | directory entries, above, name :: rest =>
    if name = "" ∨ name = "." then walk (directory entries) above rest
    else if name = ".." then
      match above with
      | [] => walk (directory entries) [] rest
      | parent :: above => walk parent above rest
    else if 255 < name.utf8ByteSize then .error .nameTooLong
    else match entries.lookup name with
      | some next => walk next (directory entries :: above) rest
      | none => .error .notFound

/-- What a path leads to; one that does not begin with a slash begins at the directory
`current`. -/
def find (root : FileTree) (current path : String) : Except FileError FileTree :=
  if '\x00' ∈ path.toList then .error .nulInName
  else if path = "" then .error .notFound
  else if 4096 ≤ path.utf8ByteSize then .error .nameTooLong
  else if path.toList.head? = some '/' then (walk root [] (components path)).map (·.1)
  else do
    let (here, above) ← walk root [] (components current)
    return (← walk here above (components path)).1

def isDirectory (root : FileTree) (current path : String) : Bool :=
  match root.find current path with
  | .ok (directory _) => true
  | _ => false

def isFile (root : FileTree) (current path : String) : Bool :=
  match root.find current path with
  | .ok (file _) => true
  | _ => false

def readText (root : FileTree) (current path : String) : Except FileError String := do
  match ← root.find current path with
  | directory _ => .error .isDirectory
  | file bytes => match String.fromUTF8? bytes with
    | some text => .ok text
    | none => .error .notText

/-- Put a file at the place with these names, with the directories on the way there. -/
def insert (bytes : ByteArray) : List String → FileTree → FileTree
  | [], _ => file bytes
  | name :: rest, tree =>
    let entries := match tree with
      | directory entries => entries
      | file _ => []
    let below := (entries.lookup name).getD (directory [])
    directory ((name, below.insert bytes rest) :: entries.filter fun e => e.1 ≠ name)

end FileTree

end RunControl
