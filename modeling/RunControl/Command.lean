import RunControl.Breakpoints
import RunControl.Text

/-!
# Commands at a pause

While a run is paused the user says how to go on: continue to the next breakpoint, stop at the
next position, or quit. `Command.ofText` reads a command, `Command.resumeMode` is the mode to
resume in.
-/

namespace RunControl

/-- What the user wants done with a paused run. -/
inductive Command
  | proceed
  | step
  | quit
deriving DecidableEq

namespace Command

def name : Command → String
  | proceed => "continue"
  | step => "step"
  | quit => "quit"

def all : List Command := [proceed, step, quit]

/-- The mode to resume in; quitting resumes nothing. -/
def resumeMode : Command → Option DebugMode
  | proceed => some .breakpoint
  | step => some .stepOver
  | quit => none

/-- What is said about an unknown command. -/
def unknownMessage (word : String) : String :=
  "Unknown command '" ++ word ++ "': expected c(ontinue), s(tep) or q(uit)"

/-- Read a command by its name or first letter, in any letter case; an empty line is a step. An
unknown word is answered as it was understood: trimmed and in lower case. -/
def ofText (s : String) : Except String Command :=
  let word := String.ofList (Text.lowerAscii (Text.trim s.toList))
  if word = "c" ∨ word = "continue" then .ok proceed
  else if word = "s" ∨ word = "step" ∨ word = "" then .ok step
  else if word = "q" ∨ word = "quit" then .ok quit
  else .error word

end Command

end RunControl
