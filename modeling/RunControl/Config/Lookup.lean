import RunControl.Config
import RunControl.Error
import RunControl.FileTree
import RunControl.Path
import RunControl.Toml.Reader

/-!
# Where the configuration comes from

`Config.load` looks for a file: the one asked for, else the one that the environment names, else the
one in the user's directory if there is one, else the standard applies. A file that is asked for or
named has to be readable, and every file that is read has to make sense. What can be done with files
is given by `Files`, so the same rule runs on a disk and on a `FileTree`.
-/

namespace RunControl

/-- What can be done with files, as actions of `m`; a text that cannot be read comes with the cause.
-/
structure Files (m : Type → Type) where
  isFile : String → m Bool
  isDirectory : String → m Bool
  readText : String → m (Except String String)

/-- The files of a tree, seen from a directory in it. -/
def FileTree.files (root : FileTree) (current : String) : Files Id where
  isFile path := root.isFile current path
  isDirectory path := root.isDirectory current path
  readText path := (root.readText current path).mapError FileError.message

/-- The variables that say where the configuration is: the directory of the user, that of the user's
configurations if it is not the usual one, and a file. -/
structure Environment where
  home : Option String
  configHome : Option String
  configFile : Option String

/-- The file with the user's configuration. -/
def Environment.userConfig? (e : Environment) : Option String :=
  let directory := (e.configHome.filter Path.isAbsolute).or
    (e.home.map fun home => Path.resolve home ".config")
  directory.map fun directory => Path.resolve (Path.resolve directory "stepwise") "config.toml"

namespace Config

/-- The configuration in the text of a file. -/
def ofText (path text : String) : Except ControlError Config :=
  match (Toml.parse? text).bind read? with
  | some config => .ok config
  | none => .error (.configMalformed path)

variable {m : Type → Type} [Monad m]

def ofFile (files : Files m) (path : String) : m (Except ControlError Config) := do
  match ← files.readText path with
  | .ok text => return ofText path text
  | .error cause => return .error (.configUnreadable path cause)

def load (files : Files m) (e : Environment) (asked : Option String) :
    m (Except ControlError Config) := do
  match asked.or (e.configFile.filter fun path => !path.isEmpty) with
  | some path => ofFile files path
  | none => match e.userConfig? with
    | some path => if ← files.isFile path then ofFile files path else return .ok standard
    | none => return .ok standard

end Config

end RunControl
