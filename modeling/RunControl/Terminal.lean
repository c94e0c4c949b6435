import RunControl.Command
import RunControl.CommandLine
import RunControl.Console
import RunControl.Demo
import RunControl.Log
import RunControl.Style
import RunControl.System.Step
import RunControl.Wire

/-!
# A demo at a terminal

A `Terminal` is a supervisor with a demo, the worker that runs it, and a command loop on a thread of
its own. The worker sends notices to the loop through a queue. Both read from the same input: the
worker when the demo asks for a value, the loop when it has shown a prompt. `Terminal.step` is one
step of either side, so the steps cover every interleaving.
-/

namespace RunControl

/-- Where a text is shown. -/
inductive Stream
  | stdout
  | stderr
deriving DecidableEq

/-- What is shown. -/
inductive Shown
  | text (stream : Stream) (s : String)
  | log (record : LogRecord)
deriving DecidableEq

/-- The two sides at a terminal. -/
inductive Side
  | worker
  | loop
deriving DecidableEq

/-- What happens next at a terminal: a side goes on, or the worker, asleep, wakes up for no
reason. -/
inductive Tick
  | go (side : Side)
  | wake
deriving DecidableEq

/-- Where the command loop is: about to start the run, waiting for the next notice, about to read a
command, about to let go of the supervisor because the input cannot be read, waiting for the run to
end after that, or done. -/
inductive LoopPoint
  | starting
  | receiving
  | prompting
  | failing (message : String)
  | leaving (message : String)
  | done (outcome : Except String Termination)

/-- Where a call of the program for a value is: about to read a line, about to answer, or through.
-/
inductive ConsolePoint
  | idle
  | entered (answer : Option Value)
  | answered

/-- What a demo is run with; texts may be shown in styles. -/
structure TerminalPlan where
  demo : Demo
  args : List String
  mode : DebugMode
  breakpoints : List UInt32
  workingDirectory : String
  format : OutputFormat
  styled : Bool

/-- A supervisor, its worker and the command loop, with the notices that the loop has not received,
the lines that nobody has read, who has read and what has been shown, latest first. -/
structure Terminal where
  plan : TerminalPlan
  system : System Body
  events : List Notice
  input : List ConsoleLine
  readers : List Side
  shown : List Shown
  loop : LoopPoint
  console : ConsolePoint

namespace TerminalPlan

/-- What never changes during the run. -/
def setup (p : TerminalPlan) : Setup Body :=
  { info := p.demo.info
    libraries := []
    translators := Translators.standard
    entry := fun _ args => (p.demo.routine args).body }

/-- The stream for all but the report: the report in JSON has the standard output to itself. -/
def stream (p : TerminalPlan) : Stream :=
  match p.format with
  | .text => .stdout
  | .json => .stderr

/-- The lines that are not in the program. -/
def ignored (p : TerminalPlan) : List UInt32 :=
  let active := ((Breakpoints.none p.demo.info.lineCount).activate p.breakpoints).activeLines
  p.breakpoints.filter fun line => line ∉ active

/-- The line of a pause with its source. -/
def pauseText (p : TerminalPlan) (line : UInt32) : String :=
  let source := ((p.demo.sourceLine? line.toNat).getD "").toList
  Style.boldGreen.paint p.styled "=>" ++ " " ++ Text.padStart 3 (Numeral.text line.toNat) ++
    " | " ++ String.ofList (Text.trimEnd Text.isBlank source) ++ "\n"

/-- The line of a scalar that has a value. -/
def scalarText (p : TerminalPlan) (id : Nat) (v : Value) : String :=
  "       " ++ Style.dimmed.paint p.styled "s" ++ Numeral.text id ++ " = " ++ v.display ++ "\n"

/-- The lines of all scalars that have a value. -/
def scalarTexts (p : TerminalPlan) (snapshot : Snapshot) : List String :=
  (List.range p.demo.layout.1).filterMap fun id =>
    (snapshot.scalar id).value?.map (p.scalarText id)

def prompt : String := "(c)ontinue, (s)tep, (q)uit > "

/-- The answer to an unknown command. -/
def unknownText (p : TerminalPlan) (word : String) : String :=
  Style.yellow.paint p.styled (Command.unknownMessage word) ++ "\n"

/-- The report on a result, for people. -/
def reportText (p : TerminalPlan) (r : RunResult) : String :=
  match r.termination, r.error with
  | .error, some d =>
    let source := ((p.demo.sourceLine? d.position.line.toNat).getD "").toList
    Style.boldRed.paint p.styled "Error:" ++ " " ++ d.message ++ "\n" ++
      if d.position.line = 0 then ""
      else "  at line " ++ Numeral.text d.position.line.toNat ++ ", column " ++
        Numeral.text d.position.column.toNat ++ ": " ++ String.ofList (Text.trim source) ++ "\n"
  | .interrupted, _ => Style.yellow.paint p.styled "Program interrupted" ++ "\n"
  | _, _ =>
    Style.green.paint p.styled "Program finished" ++ " (" ++ Numeral.text (r.elapsed / 1000000) ++
      " ms)\n"

theorem reportText_of_error {p : TerminalPlan} {r : RunResult} {d : Diagnostic}
    (hfailed : r.termination = .error) (herror : r.error = some d) : ∃ source, p.reportText r =
      Style.boldRed.paint p.styled "Error:" ++ " " ++ d.message ++ "\n" ++
        if d.position.line = 0 then ""
        else "  at line " ++ Numeral.text d.position.line.toNat ++ ", column " ++
          Numeral.text d.position.column.toNat ++ ": " ++ source ++ "\n" := by
  simp only [reportText, hfailed, herror]
  exact ⟨_, rfl⟩

/-- The report on a result, always on the standard output. -/
def report (p : TerminalPlan) (r : RunResult) : String :=
  match p.format with
  | .text => p.reportText r
  | .json => r.toJson.pretty ++ "\n"

end TerminalPlan

namespace Terminal

def loopThread : Thread := .controller 0

/-- The observer that sends notices to the loop. -/
def watcher : ObserverId := "terminal"

def run : RunId := 0

/-- Show a text on the stream for all but the report. -/
def say (t : Terminal) (s : String) : Terminal :=
  { t with shown := .text t.plan.stream s :: t.shown }

def log (t : Terminal) (r : LogRecord) : Terminal := { t with shown := .log r :: t.shown }

/-! ## Log records -/

/-- Some lines are not in the program. -/
def ignoredRecord (lines : List UInt32) : LogRecord :=
  let list := String.intercalate ", " (lines.map fun line => Numeral.text line.toNat)
  ⟨.warn, "stepwise::cli::commands", none, "Breakpoints outside the program were ignored",
    [("ignored", .text ("[" ++ list ++ "]"))]⟩

def startRecord (p : TerminalPlan) : LogRecord :=
  ⟨.info, "stepwise::runtime::supervisor", none, "Starting run",
    [("program", .text p.demo.name), ("mode", .text p.mode.name)]⟩

def begunRecord (p : TerminalPlan) : LogRecord :=
  ⟨.info, LogRecord.runTarget, some p.demo.name, "Run started",
    [("args", .number p.args.length)]⟩

def endedRecord (p : TerminalPlan) (r : RunResult) : LogRecord :=
  ⟨.info, "stepwise::runtime::supervisor", some p.demo.name, "Run ended",
    [("program", .text p.demo.name), ("termination", .text r.termination.name),
      ("elapsed_ms", .number r.elapsedMillis.toNat)]⟩

def interruptRecord (p : TerminalPlan) : LogRecord :=
  ⟨.info, "stepwise::runtime::supervisor", none, "Interrupt requested",
    [("program", .text p.demo.name)]⟩

/-- A line was no answer for the program. -/
def enteredRecord? (p : TerminalPlan) : Entered → Option LogRecord
  | .rejected message =>
    some ⟨.warn, "stepwise::console", some p.demo.name, "Rejected console input",
      [("error", .text message)]⟩
  | .failed message =>
    some ⟨.warn, "stepwise::console", some p.demo.name, "Failed to read from stdin",
      [("error", .text message)]⟩
  | _ => none

/-! ## Steps -/

def initial (p : TerminalPlan) (input : List ConsoleLine) : Terminal :=
  let system := System.initial p.setup p.workingDirectory
  let (scalars, vectors, matrices) := p.demo.layout
  let system :=
    { system with
      snapshot := (Snapshot.Change.configure scalars vectors matrices).apply system.snapshot
      control := system.control.activate p.breakpoints
      roster := system.roster.add watcher }
  let t : Terminal :=
    { plan := p
      system
      events := []
      input
      readers := []
      shown := []
      loop := .starting
      console := .idle }
  if p.ignored.isEmpty then t else t.log (ignoredRecord p.ignored)

/-- Do a step of the system, if it is possible. -/
def stepSystem (t : Terminal) (l : Label Body) : Option Terminal :=
  (t.system.step t.plan.setup l).map fun system => { t with system }

/-- Read the next line; there is none at the end of the input. -/
def takeLine (t : Terminal) (p : Side) : Option ConsoleLine × Terminal :=
  (t.input.head?, { t with input := t.input.tail, readers := p :: t.readers })

/-- Ask the run to stop; this is logged if it makes a difference. -/
def interrupt (t : Terminal) : Option Terminal :=
  (t.stepSystem (.act loopThread .interrupt)).map fun next =>
    if t.system.control.interrupt.isSome then next.log (interruptRecord t.plan) else next

/-- Do what the notice that was received calls for. -/
def receive (t : Terminal) : Notice → Terminal
  | .lineHighlighted line =>
    let t := t.say (t.plan.pauseText line)
    let t := (t.plan.scalarTexts t.system.snapshot).foldl say t
    { t.say TerminalPlan.prompt with loop := .prompting }
  | .ended r =>
    { t with
      shown := .text .stdout (t.plan.report r) :: t.shown
      loop := .done (.ok r.termination) }
  | _ => t

/-- Read a command and do it; after an unknown one the prompt is shown again. -/
def takeCommand (t : Terminal) : Option Terminal :=
  let (line, t) := t.takeLine .loop
  match line with
  | none => { t with loop := .receiving }.interrupt
  | some .garbled => some { t with loop := .failing garbledMessage }
  | some (.text s) =>
    match Command.ofText s with
    | .error word => some ((t.say (t.plan.unknownText word)).say TerminalPlan.prompt)
    | .ok command =>
      let t := { t with loop := .receiving }
      match command.resumeMode with
      | some mode => t.stepSystem (.act loopThread (.resume mode))
      | none => t.interrupt

/-- A step of the loop, unless it waits. -/
def stepLoop (t : Terminal) : Option Terminal :=
  if t.system.isBusy loopThread then t.stepSystem (.complete loopThread)
  else match t.loop with
    | .starting =>
      let next := t.stepSystem (.act loopThread (.start t.plan.args t.plan.mode))
      next.map fun next => { next with loop := .receiving }.log (startRecord t.plan)
    | .receiving => match t.events with
      | [] => none
      | event :: rest => some ({ t with events := rest }.receive event)
    | .prompting => t.takeCommand
    | .failing message => { t with loop := .leaving message }.interrupt
    | .leaving message =>
      if t.system.control.alive then none else some { t with loop := .done (.error message) }
    | .done _ => none

/-- A step of the program's call for a value. -/
def stepConsole (t : Terminal) (ask : Ask Body) : Option Terminal :=
  match t.console with
  | .idle =>
    let (line, t) := t.takeLine .worker
    let entered := Entered.ofLine ask.type line
    let t := { t with console := .entered entered.answer }
    some (match enteredRecord? t.plan entered with
      | some r => t.log r
      | none => t)
  | .entered answer =>
    { t with console := .answered }.stepSystem (.act (.worker run) (.settle ask.ticket answer))
  | .answered => { t with console := .idle }.stepSystem (.returned run)

/-- A step of the worker at a point. -/
def stepAt (t : Terminal) (elapsed : Nat) : Point Body → Option Terminal
  | .telling notice (_ :: _) _ =>
    { t with events := t.events ++ [notice] }.stepSystem (.returned run)
  | .ending result (_ :: _) =>
    { t with events := t.events ++ [Notice.ended result] }.stepSystem (.returned run)
  | .asking ask _ => t.stepConsole ask
  | .writing v _ _ => (t.say v.display).stepSystem (.returned run)
  | .clearing _ _ => (t.say clearScreen).stepSystem (.returned run)
  | .body state => t.stepSystem (.call run state.next)
  | .queued => (t.stepSystem (.advance run elapsed)).map fun next => next.log (begunRecord t.plan)
  | .finishing result _ =>
    (t.stepSystem (.advance run elapsed)).map fun next =>
      next.log (endedRecord t.plan result)
  | _ => t.stepSystem (.advance run elapsed)

/-- A step of the worker, unless it sleeps; `elapsed` is the age of the run in nanoseconds. -/
def stepWorker (t : Terminal) (elapsed : Nat) : Option Terminal :=
  if t.system.isBusy (.worker run) then t.stepSystem (.complete (.worker run))
  else match t.system.point? run with
    | some (.held _) | some (.awaitingAsleep _) => none
    | some p => t.stepAt elapsed p
    | none => none

/-- A step of either side, or of neither. -/
def step (t : Terminal) (elapsed : Nat) : Tick → Option Terminal
  | .go .worker => t.stepWorker elapsed
  | .go .loop => t.stepLoop
  | .wake => t.stepSystem (.wake run)

def isDone (t : Terminal) : Bool :=
  match t.loop with
  | .done _ => true
  | _ => false

/-- The loop is about to read a line. -/
def loopReads (t : Terminal) : Bool :=
  !t.system.isBusy loopThread && match t.loop with
    | .prompting => true
    | _ => false

/-- The program is about to read a line. -/
def programReads (t : Terminal) : Bool :=
  !t.system.isBusy (.worker run) && match t.system.point? run, t.console with
    | some (.asking _ _), .idle => true
    | _, _ => false

/-- A step of the worker if there is one, else of the loop. -/
def next (t : Terminal) (elapsed : Nat) : Option Terminal :=
  (t.stepWorker elapsed).or t.stepLoop

/-- The step that is next reads a line. -/
def nextReads (t : Terminal) : Bool :=
  t.programReads || (t.loopReads && (t.stepWorker 0).isNone)

/-- Go on until the loop is done, for so many steps at most. -/
def finish : Nat → Terminal → Terminal
  | 0, t => t
  | fuel + 1, t =>
    if t.isDone then t
    else match t.next 0 with
      | some t => finish fuel t
      | none => t

end Terminal

end RunControl
