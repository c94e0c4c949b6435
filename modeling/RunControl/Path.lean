/-!
# Paths

Paths are texts with slashes. `Path.resolve` reads a path relative to a directory; nothing is looked
up and nothing is shortened.
-/

namespace RunControl.Path

def isAbsolute (path : String) : Bool := path.toList.head? = some '/'

/-- A path relative to a directory, unless it is absolute. -/
def resolve (directory path : String) : String :=
  if isAbsolute path || directory.isEmpty then path
  else if directory.toList.getLast? = some '/' then directory ++ path
  else directory ++ "/" ++ path

end RunControl.Path
