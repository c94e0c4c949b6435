import RunControl.CommandLine

/-!
# Switches

A `Switch` has a long name and perhaps a short one, and some take a value. A `Scope` is the part of
the command line that a switch stands in: before the command, or after one of the two commands.
-/

namespace RunControl

/-- A switch of the command line. -/
inductive Switch
  | verbose
  | quiet
  | config
  | breakpoints
  | step
  | output
  | workingDirectory
  | help
  | version
deriving DecidableEq

namespace Switch

def long : Switch → String
  | verbose => "verbose"
  | quiet => "quiet"
  | config => "config"
  | breakpoints => "breakpoints"
  | step => "step"
  | output => "output"
  | workingDirectory => "working-dir"
  | help => "help"
  | version => "version"

def short? : Switch → Option Char
  | verbose => some 'v'
  | quiet => some 'q'
  | breakpoints => some 'b'
  | output => some 'o'
  | help => some 'h'
  | version => some 'V'
  | _ => none

/-- What the value is called, for a switch that takes one. -/
def valueName? : Switch → Option String
  | config => some "CONFIG"
  | breakpoints => some "BREAKPOINTS"
  | output => some "OUTPUT"
  | workingDirectory => some "WORKING_DIR"
  | _ => none

def takesValue (s : Switch) : Bool := s.valueName?.isSome

/-- The switch may have the value: a path is not empty, and a form of output is a known one. -/
def accepts (s : Switch) (v : String) : Bool :=
  match s with
  | config | workingDirectory => !v.isEmpty
  | output => (OutputFormat.ofName? v).isSome
  | _ => true

end Switch

/-- A part of the command line: before the command, or after one of the two commands. -/
inductive Scope
  | top
  | run
  | list
deriving DecidableEq

namespace Scope

/-- The switches of a part, in the order of the help. -/
def switches : Scope → List Switch
  | top => [.verbose, .quiet, .config, .help, .version]
  | run => [.breakpoints, .verbose, .quiet, .step, .config, .output, .workingDirectory, .help]
  | list => [.output, .verbose, .quiet, .config, .help]

def findLong? (scope : Scope) (name : String) : Option Switch :=
  scope.switches.find? fun s => s.long = name

def findShort? (scope : Scope) (c : Char) : Option Switch :=
  scope.switches.find? fun s => s.short? = some c

end Scope

end RunControl
