import RunControl.Breakpoints.Entry
import RunControl.CommandLine.Help
import RunControl.Config.Lookup
import RunControl.Log.Filter
import RunControl.Terminal

/-!
# The program as a whole

`Application.start` reads the command line and the configuration. What is asked for is either said
at once or is a `Terminal` to be run to its end; `Application.perform` does all of it for an input
that is known beforehand.
-/

namespace RunControl

/-- What the program knows about its surroundings: whether texts are shown in styles, and what is
logged, whatever command line and configuration say. -/
structure Host where
  environment : Environment
  styled : Bool
  logFilter : Option LogFilter

/-- What is logged, and in which form. -/
structure LogSettings where
  filter : LogFilter
  json : Bool
deriving DecidableEq

/-- The record as it is logged, if it is. -/
def LogSettings.see (l : LogSettings) (r : LogRecord) : Option LogRecord :=
  if l.filter.passes r then some (l.filter.see r) else none

/-- How the program ends: what has been shown, and the exit status. -/
structure Ending where
  shown : List Shown
  status : Nat

namespace Ending

/-- The program ends well after showing this. -/
def success (s : String) : Ending := ⟨[.text .stdout s], 0⟩

/-- Show texts on the error stream first. -/
def after (e : Ending) (texts : List String) : Ending :=
  { e with shown := texts.map (Shown.text .stderr) ++ e.shown }

/-- The lines after the first of a cause are indented like the first. -/
def indent (s : String) : String :=
  "    " ++ String.ofList (s.toList.flatMap fun c =>
    if c = '\n' then ['\n', ' ', ' ', ' ', ' '] else [c])

/-- What is said about a failure and its cause. -/
def failureText (message : String) (cause : Option String) : String :=
  "Error: " ++ message ++ "\n" ++ match cause with
    | some cause => "\nCaused by:\n" ++ indent cause ++ "\n"
    | none => ""

def failure (message : String) (cause : Option String) : Ending :=
  ⟨[.text .stderr (failureText message cause)], 1⟩

/-- The program fails with an error of a call. -/
def ofError (e : ControlError) : Ending :=
  match e with
  | .configUnreadable _ cause => failure e.message (some cause)
  | .configMalformed _ => failure (e.message ++ ": TOML parse error") none
  | _ => failure e.message none

def ofUsage (styled : Bool) (e : UsageError) : Ending :=
  match e with
  | .help topic => success (topic.text styled)
  | .version => success UsageError.versionText
  | e => ⟨[.text .stderr ("error: " ++ e.message ++ "\n")], e.exitCode⟩

end Ending

/-- What there is to do after the command line has been read. -/
inductive Application
  | ended (e : Ending)
  | running (log : LogSettings) (terminal : Terminal)

namespace Application

/-- Show texts on the error stream first. -/
def after (a : Application) (texts : List String) : Application :=
  match a with
  | ended e => ended (e.after texts)
  | running log t =>
    running log { t with shown := t.shown ++ (texts.map (Shown.text .stderr)).reverse }

/-! ## Listing the demos -/

def demoJson (d : Demo) : Json :=
  Json.ofMembers
    [("description", Json.ofString d.description), ("lines", Json.ofNat (d.info.lineCount - 1)),
      ("name", Json.ofString d.name)]

def demoLine (styled : Bool) (d : Demo) : String :=
  "  " ++ Style.cyan.paint styled (Text.padEnd 10 d.name) ++ " " ++ d.description ++ "\n"

def listText (styled : Bool) : OutputFormat → String
  | .json => (Json.array (Demo.all.map demoJson)).pretty ++ "\n"
  | .text =>
    Style.bold.paint styled "Available demos:" ++ "\n" ++
      String.join (Demo.all.map (demoLine styled))

/-! ## Running a demo -/

/-- The mode to start in: a request to pause everywhere wins over breakpoints, and those over the
configuration. -/
def modeOf (r : RunRequest) (lines : List UInt32) (config : Config) : DebugMode :=
  if r.step then .stepOver
  else if lines.isEmpty then config.debugger.defaultMode
  else .breakpoint

/-- What is said about a demo that there is not. -/
def unknownDemo (name : String) : String :=
  "Unknown demo '" ++ name ++ "'. Run `stepwise list` to see the available demos"

/-- The plan of a run; the working directory has still to be looked up. -/
def planOf (styled : Bool) (config : Config) (r : RunRequest) : Except Ending TerminalPlan :=
  match Demo.ofName? r.demo with
  | none => .error (Ending.failure (unknownDemo r.demo) none)
  | some demo =>
    match (r.breakpoints.map Breakpoints.linesOfText).getD (.ok []) with
    | .error e => .error (Ending.failure "Invalid --breakpoints value" (some e.message))
    | .ok lines => .ok
      { demo
        args := r.args
        mode := modeOf r lines config
        breakpoints := lines
        workingDirectory := r.workingDirectory.getD "."
        format := r.format
        styled }

variable {m : Type → Type} [Monad m]

def startRun (files : Files m) (styled : Bool) (config : Config) (log : LogSettings)
    (r : RunRequest) : m Application := do
  match planOf styled config r with
  | .error e => return .ended e
  | .ok plan =>
    if ← files.isDirectory plan.workingDirectory then
      return .running log (Terminal.initial plan [])
    else return .ended (Ending.ofError (.invalidWorkingDirectory plan.workingDirectory))

/-- What to log, and what is said about directives that are left out. The surroundings win over
command line and configuration. -/
def filterOf (host : Host) (level : String) : LogFilter × List String :=
  match host.logFilter with
  | some filter => (filter, [])
  | none => LogFilter.ofText level

/-- Begin what the words after the name of the program ask for. -/
def start (files : Files m) (host : Host) (words : List String) : m Application := do
  match Invocation.ofArguments words with
  | .error e => return .ended (Ending.ofUsage host.styled e)
  | .ok i =>
    match ← Config.load files host.environment i.config with
    | .error e => return .ended (Ending.ofError e)
    | .ok config =>
      let (filter, ignored) := filterOf host (i.verbosity.logLevel config.logging.level)
      match i.request with
      | .list format =>
        return .ended ((Ending.success (listText host.styled format)).after ignored)
      | .run r =>
        return (← startRun files host.styled config ⟨filter, config.logging.json⟩ r).after ignored

/-! ## To the end -/

/-- How the program ends with this terminal. -/
def endOf (t : Terminal) : Ending :=
  match t.loop with
  | .done (.ok termination) => ⟨t.shown.reverse, termination.exitCode⟩
  | .done (.error message) =>
    ⟨t.shown.reverse ++ [.text .stderr (Ending.failureText message none)], 1⟩
  | _ => ⟨t.shown.reverse, 1⟩

/-- A run that has not ended after so many steps is taken to go on for ever. -/
def patience : Nat := 1000000000

/-- Do everything for an input that is known, and answer what was logged and how it ended. -/
def perform (files : Files m) (host : Host) (words : List String) (input : List ConsoleLine) :
    m (Option LogSettings × Ending) := do
  match ← start files host words with
  | .ended e => return (none, e)
  | .running log t => return (some log, endOf (Terminal.finish patience { t with input }))

end Application

end RunControl
