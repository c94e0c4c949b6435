import RunControl.Json
import RunControl.Text

/-!
# Log records

A `LogRecord` is one line of the log; it may be made within a `LogSpan`, such as the run of a
program. `LogRecord.text` and `LogRecord.members` are the two forms of a line, without the time.
-/

namespace RunControl

/-- How important a record is. -/
inductive LogLevel
  | error
  | warn
  | info
  | debug
  | trace
deriving DecidableEq

namespace LogLevel

def name : LogLevel → String
  | error => "ERROR"
  | warn => "WARN"
  | info => "INFO"
  | debug => "DEBUG"
  | trace => "TRACE"

/-- How many levels a filter lets through that lets this one through. -/
def rank : LogLevel → Nat
  | error => 1
  | warn => 2
  | info => 3
  | debug => 4
  | trace => 5

end LogLevel

/-- The value of a field. -/
inductive LogValue
  | text (s : String)
  | number (n : Nat)
deriving DecidableEq

/-- A stretch of time in which records are made. -/
structure LogSpan where
  level : LogLevel
  target : String
  name : String
  fields : List (String × String)
deriving DecidableEq

/-- One line of the log, maybe of the run of a program. -/
structure LogRecord where
  level : LogLevel
  target : String
  run : Option String
  message : String
  fields : List (String × LogValue)
deriving DecidableEq

namespace LogValue

def display : LogValue → String
  | text s => s
  | number n => Numeral.text n

def toJson : LogValue → Json
  | text s => Json.ofString s
  | number n => Json.ofNat n

end LogValue

namespace LogRecord

/-- The target of records about the run as a whole. -/
def runTarget : String := "stepwise::runtime::worker"

/-- The span in which the record is made. -/
def span? (r : LogRecord) : Option LogSpan :=
  r.run.map fun program => ⟨.info, runTarget, "run", [("program", program)]⟩

/-- The names of the fields, with that of the message. -/
def fieldNames (r : LogRecord) : List String := "message" :: r.fields.map (·.1)

/-- The record as text, after the level. -/
def tail (r : LogRecord) : String :=
  let run := match r.run with
    | some program => "run\x7bprogram=" ++ program ++ "\x7d: "
    | none => ""
  run ++ r.target ++ ": " ++ r.message ++
    String.join (r.fields.map fun f => " " ++ f.1 ++ "=" ++ f.2.display)

def text (r : LogRecord) : String := r.level.name ++ " " ++ r.tail

def runJson (program : String) : Json :=
  Json.ofMembers [("program", Json.ofString program), ("name", Json.ofString "run")]

/-- The record as members of a document. -/
def members (r : LogRecord) : List (String × Json) :=
  let fields := Json.ofMembers
    (("message", Json.ofString r.message) :: r.fields.map fun f => (f.1, f.2.toJson))
  let run := match r.run with
    | some program =>
      [("span", runJson program), ("spans", Json.array [runJson program])]
    | none => []
  [("level", Json.ofString r.level.name), ("fields", fields), ("target", Json.ofString r.target)]
    ++ run

/-- The line of the log for a record that is made at a time. -/
def line (r : LogRecord) (asJson : Bool) (time : String) : String :=
  if asJson then (Json.ofMembers (("timestamp", Json.ofString time) :: r.members)).compact
  else time ++ " " ++ Text.padStart 5 r.level.name ++ " " ++ r.tail

end LogRecord

end RunControl
