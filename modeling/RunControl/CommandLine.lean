/-!
# What the command line asks for

An `Invocation` is a command line that makes sense: how much to log, where the configuration is, and
a `Request` to run a demo or to list the demos.
-/

namespace RunControl

/-- The form of a report. -/
inductive OutputFormat
  | text
  | json
deriving DecidableEq

namespace OutputFormat

def name : OutputFormat → String
  | text => "text"
  | json => "json"

def all : List OutputFormat := [text, json]

def ofName? (s : String) : Option OutputFormat := all.find? fun f => f.name = s

end OutputFormat

/-- How much to log. -/
inductive Verbosity
  | quiet
  | normal
  | verbose
deriving DecidableEq

namespace Verbosity

def name : Verbosity → String
  | quiet => "quiet"
  | normal => "normal"
  | verbose => "verbose"

/-- What to log; the configuration decides only where the command line does not. -/
def logLevel (v : Verbosity) (configured : String) : String :=
  match v with
  | quiet => "error"
  | normal => configured
  | verbose => "debug"

end Verbosity

/-- A request to run a demo, with the breakpoints as they are typed; `step` pauses everywhere. -/
structure RunRequest where
  demo : String
  breakpoints : Option String
  step : Bool
  format : OutputFormat
  workingDirectory : Option String
  args : List String
deriving DecidableEq

/-- A request. -/
inductive Request
  | run (r : RunRequest)
  | list (format : OutputFormat)
deriving DecidableEq

/-- A command line that makes sense; `config` is the path of a configuration. -/
structure Invocation where
  verbosity : Verbosity
  config : Option String
  request : Request
deriving DecidableEq

end RunControl
