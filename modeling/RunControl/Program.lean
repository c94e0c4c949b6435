/-!
# Facts about a program

`ProgramInfo` is what is known about a program before it runs. Its line count sizes the table of
breakpoints.
-/

namespace RunControl

/-- What is known about a program before it runs. -/
structure ProgramInfo where
  name : String
  lineCount : Nat
  functions : List String
  entryFunction : String
  sourceFile : Option String
deriving DecidableEq

/-- A program of which only name and size are known. -/
def ProgramInfo.plain (name : String) (lineCount : Nat) : ProgramInfo :=
  ⟨name, lineCount, [], "main", none⟩

end RunControl
