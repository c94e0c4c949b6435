import RunControl.Application
import Std.Time.Format

/-!
# The program on a machine

`main` runs an `Application` with the variables, the files and the streams of a process. Lines are
read when somebody asks for one and texts are shown at once; all that is decided is decided by
`Application.start` and `Terminal.next`.
-/

namespace RunControl.Machine

/-! ## Files -/

/-- The number and the text of an error; the system may count errors downwards from zero. A name
that is too long has a text of its own. -/
def numbered (code : UInt32) (details : String) : String :=
  let number := min code.toNat (-code).toNat
  if number = 36 then FileError.nameTooLong.message
  else details.capitalize ++ " (os error " ++ Numeral.text number ++ ")"

/-- What the system says about an error. -/
def errorText : IO.Error → String
  | .noFileOrDirectory _ code details | .permissionDenied _ code details
  | .inappropriateType _ code details | .invalidArgument _ code details
  | .resourceExhausted _ code details | .otherError code details =>
    numbered code details
  | e => e.toString

/-- Answer a question about a path; about one that leads nowhere the answer is no. -/
def holds (question : IO Bool) : IO Bool := do
  try question catch _ => return false

def readText (path : String) : IO (Except String String) := do
  try
    match String.fromUTF8? (← IO.FS.readBinFile path) with
    | some text => return .ok text
    | none => return .error garbledMessage
  catch e => return .error (errorText e)

def files : Files IO where
  isFile path := holds do return (← (← IO.FS.realPath path).metadata).type == .file
  isDirectory path := holds do (← IO.FS.realPath path).isDir
  readText := readText

/-! ## Variables -/

/-- A switch in the environment is on or off, if it is there. -/
def switch? (name : String) : IO (Option Bool) := do
  return (← IO.getEnv name).map fun value => value ≠ "0"

/-- Texts are shown in styles: by force, else not if that is asked for, else on a screen only. -/
def styled : IO Bool := do
  if (← switch? "CLICOLOR_FORCE") = some true then return true
  if (← switch? "NO_COLOR").isSome then return false
  return ((← switch? "CLICOLOR").getD true) && (← (← IO.getStdout).isTty)

/-- The surroundings of the process. -/
def host : IO Host := do
  return {
    environment :=
      { home := ← IO.getEnv "HOME"
        configHome := ← IO.getEnv "XDG_CONFIG_HOME"
        configFile := ← IO.getEnv "STEPWISE_CONFIG" }
    styled := ← styled
    logFilter := (← IO.getEnv "STEPWISE_LOG").bind LogFilter.ofText? }

/-! ## Streams -/

/-- The time as it stands in the log. -/
def now : IO String := do
  let time ← Std.Time.Timestamp.now
  return (Std.Time.DateTime.ofTimestampWithZone time .UTC).format "uuuu-MM-dd'T'HH:mm:ss.SSSSSS'Z'"

def put (stream : Stream) (s : String) : IO Unit := do
  let out ← match stream with
    | .stdout => IO.getStdout
    | .stderr => IO.getStderr
  out.putStr s
  out.flush

def display (log : Option LogSettings) : Shown → IO Unit
  | .text stream s => put stream s
  | .log record => do
    if let some log := log then
      if let some record := log.see record then
        put .stderr (record.line log.json (← now) ++ "\n")

/-- Read the bytes of the next line. -/
partial def readLine (input : IO.FS.Stream) (line : List UInt8) : IO (List UInt8) := do
  match (← input.read 1).toList with
  | [] => return line.reverse
  | 10 :: _ => return (10 :: line).reverse
  | b :: _ => readLine input (b :: line)

/-- The next line, unless the input is at its end. -/
def nextLines : IO (List ConsoleLine) := do
  match ← readLine (← IO.getStdin) [] with
  | [] => return []
  | bytes => return [ConsoleLine.ofLineBytes bytes]

/-! ## Runs -/

/-- Run a terminal to its end. -/
partial def finish (log : LogSettings) (started : Nat) (t : Terminal) : IO Ending := do
  t.shown.reverse.forM (display (some log))
  let t := { t with shown := [] }
  if t.isDone then return Application.endOf t
  let input ← if t.nextReads then nextLines else pure t.input
  let elapsed := (← IO.monoNanosNow) - started
  match { t with input }.next elapsed with
  | some t => finish log started t
  | none => return Application.endOf t

/-- Do what the words after the name of the program ask for, and answer the exit status. -/
def run (words : List String) : IO Nat := do
  let (log, ending) ← match ← Application.start files (← host) words with
    | .ended e => pure (none, e)
    | .running log t => pure (some log, ← finish log (← IO.monoNanosNow) t)
  ending.shown.forM (display log)
  return ending.status

end RunControl.Machine

/-- The program. -/
def main (words : List String) : IO UInt32 := do
  return (← RunControl.Machine.run words).toUInt32
