import RunControl.Fault.Classification
import RunControl.Path
import RunControl.System

/-!
# The steps of a system

`System.step` is one atomic step: a critical section, the taking of a list, or a decision of code
that does not belong to the supervisor. Such code is free: a `Label` says what it does, so the steps
cover every behaviour it can have. Threads interleave at steps.

* `advance`: what a worker does on its own, from one `Point` to the next;
* `call`: what the body asks for;
* `returned`, `libraryFailed`, `sinkFailed`, `panicked`: how a callback ends;
* `caught`: the body catches a panic that came from a callback.
-/

namespace RunControl

/-- A step. Only `advance`, by which a worker of a run of this age does what it is about to do, and
`complete`, the second step of a call, belong to the supervisor. The others are decisions of other
code, or of the scheduler: a sleeping worker may wake up for no reason. -/
inductive Label (κ : Type)
  | act (thread : Thread) (action : Action)
  | complete (thread : Thread)
  | advance (run : RunId) (elapsed : Nat)
  | wake (run : RunId)
  | call (run : RunId) (call : Call κ)
  | returned (run : RunId)
  | libraryFailed (run : RunId) (error : LibraryError)
  | sinkFailed (run : RunId) (error : OutputError)
  | panicked (run : RunId) (payload : Payload)
  | caught (run : RunId) (state : κ)

/-- Where a worker goes after a notification. -/
def AfterNotice.point {κ : Type} (setup : Setup κ) : AfterNotice κ → Point κ
  | .libraries => .initializing setup.libraries
  | .highlight h => .announcing (.lineHighlighted h.line) (.hold h)
  | .hold h => .holding h
  | .proceed state => .body state
  | .awaitAnswer ask => .awaiting ask
  | .leaveRead (.answer state) => .body state
  | .leaveRead (.unwind message) => .unwinding message

namespace System

variable {κ : Type}

/-- The last look at a read: decide and leave it. -/
def takeAnswer (s : System κ) (run : RunId) (ask : Ask κ) : System κ :=
  let (control, answer) := s.control.takeAnswer ask.type
  { s with control }.goto run (.closingRead (.answer (ask.next answer)))

/-- What a worker does next on its own; nothing while it sleeps or other code runs on it. -/
def advance (setup : Setup κ) (s : System κ) (run : RunId) (args : List String) (elapsed : Nat) :
    Point κ → Option (System κ)
  | .queued => some (s.goto run (.announcing .started .libraries))
  | .announcing notice after => some (s.goto run (.telling notice s.roster.members after))
  | .telling _ [] after => some (s.goto run (after.point setup))
  | .initializing [] =>
    some ({ s with
      snapshot := s.snapshot.reset
      executions := s.executions + 1 }.goto run (.body (setup.entry s.executions args)))
  | .holding hold =>
    if s.control.isHeld hold.generation then some (s.goto run (.held hold))
    else
      let answer := if s.control.interrupted then .error .interrupted else .ok ()
      some (s.goto run (.announcing .resumed (.proceed (hold.next answer))))
  | .requesting ask =>
    some ({ s with handles := s.handles ++ [ask.ticket] }.goto run (.asking ask s.input))
  | .checking ask =>
    if s.control.awaitsAnswer then some (s.goto run (.announcing .paused (.awaitAnswer ask)))
    else some (s.takeAnswer run ask)
  | .awaiting ask =>
    if s.control.awaitsAnswer then some (s.goto run (.awaitingAsleep ask))
    else some (s.takeAnswer run ask)
  | .closingRead exit =>
    some ({ s with control := s.control.closeRead }.goto run
      (.announcing .resumed (.leaveRead exit)))
  | .unwinding message =>
    some (s.goto run (.finalizing setup.libraries (.error (.panic message))))
  | .finalizing [] outcome => some (s.goto run (.classifying outcome))
  | .classifying outcome => match
      RunResult.ofOutcome setup.translators setup.info s.control.position elapsed outcome with
    | .ok result => some (s.goto run (.draining result))
    | .error payload => some (s.goto run (.recovering payload.message))
  | .recovering message =>
    some (s.goto run (.draining (RunResult.ofPanic message s.control.position elapsed)))
  | .draining result =>
    some ({ s with roster := Roster.empty }.goto run (.finishing result s.roster.members))
  | .finishing result watchers =>
    some ({ s with control := s.control.finish }.goto run (.ending result watchers))
  | .ending _ [] => some (s.goto run .done)
  | _ => none

/-- What the body asks for. A change of the snapshot for which there is no room panics. -/
def call (setup : Setup κ) (s : System κ) (run : RunId) : Call κ → System κ
  | .finish outcome => s.goto run (.finalizing setup.libraries outcome)
  | .panic payload => s.goto run (.finalizing setup.libraries (.error (.panic payload.message)))
  | .think next => s.goto run (.body next)
  | .pausePoint position next =>
    let (control, decision) := s.control.reach position
    { s with control }.goto run (match decision with
      | .interrupted => .body (next (.error .interrupted))
      | .pass => .body (next (.ok ()))
      | .pause generation =>
        .announcing .paused (.highlight ⟨generation, position.line, next⟩))
  | .checkInterrupted next =>
    s.goto run (.body (next (if s.control.interrupted then .error .interrupted else .ok ())))
  | .read type next => match s.control.openRead with
    | none => s.goto run (.body (next (.error .interrupted)))
    | some control =>
      { s with control }.goto run (.requesting ⟨control.read.ticket, type, next⟩)
  | .write value next => s.goto run (.writing value s.output next)
  | .clear next => s.goto run (.clearing s.output next)
  | .change change next =>
    let (snapshot, panics) := change.run s.snapshot
    { s with snapshot }.goto run
      (if panics then .unwinding Memory.overflowMessage else .body next)
  | .query query next => s.goto run (.body (next (s.snapshot.answer query)))
  | .position next => s.goto run (.body (next s.control.position))
  | .resolve path next => s.goto run (.body (next (Path.resolve s.workingDirectory path)))

def returned (s : System κ) (run : RunId) : Point κ → Option (System κ)
  | .telling notice (_ :: queue) after => some (s.goto run (.telling notice queue after))
  | .initializing (_ :: left) => some (s.goto run (.initializing left))
  | .asking ask _ => some (s.goto run (.checking ask))
  | .writing _ _ next => some (s.goto run (.body (next (.ok ()))))
  | .clearing _ next => some (s.goto run (.body (next (.ok ()))))
  | .finalizing (_ :: left) outcome => some (s.goto run (.finalizing left outcome))
  | .ending result (_ :: queue) => some (s.goto run (.ending result queue))
  | _ => none

/-- A library reports an error. One that fails to stop changes nothing. -/
def libraryFailed (setup : Setup κ) (s : System κ) (run : RunId) (error : LibraryError) :
    Point κ → Option (System κ)
  | .initializing (_ :: _) =>
    some (s.goto run (.finalizing setup.libraries (.error (.library error))))
  | .finalizing (_ :: left) outcome => some (s.goto run (.finalizing left outcome))
  | _ => none

def sinkFailed (s : System κ) (run : RunId) (error : OutputError) : Point κ → Option (System κ)
  | .writing _ _ next => some (s.goto run (.body (next (.error (Fault.ofWriteError error)))))
  | .clearing _ next => some (s.goto run (.body (next (.error Fault.ofClearError))))
  | _ => none

/-- A callback panics. Within the body the panic goes on to the body, after closing a read that is
open; a panic of the last notification of a read that another panic is leaving ends the process. -/
def panicked (setup : Setup κ) (s : System κ) (run : RunId) (payload : Payload) :
    Point κ → Option (System κ)
  | .telling _ (_ :: _) after => match after with
    | .libraries => some (s.goto run (.recovering payload.message))
    | .awaitAnswer _ => some (s.goto run (.closingRead (.unwind payload.message)))
    | .leaveRead (.unwind _) => some { s with aborted := true }
    | _ => some (s.goto run (.unwinding payload.message))
  | .initializing (library :: _) =>
    let error : LibraryError :=
      ⟨library, "panicked during initialization: " ++ payload.message⟩
    some (s.goto run (.finalizing setup.libraries (.error (.library error))))
  | .asking _ _ => some (s.goto run (.closingRead (.unwind payload.message)))
  | .writing _ _ _ => some (s.goto run (.unwinding payload.message))
  | .clearing _ _ => some (s.goto run (.unwinding payload.message))
  | .finalizing (_ :: left) outcome => some (s.goto run (.finalizing left outcome))
  | .ending result (_ :: queue) => some (s.goto run (.ending result queue))
  | _ => none

/-- The body catches the panic that has reached it. -/
def caught (s : System κ) (run : RunId) (state : κ) : Point κ → Option (System κ)
  | .unwinding _ => some (s.goto run (.body state))
  | _ => none

/-- A worker that is not within a call of its own. -/
def freeTask? (s : System κ) (run : RunId) : Option (Task κ) :=
  if s.isBusy (.worker run) then none else s.tasks[run]?

def step (setup : Setup κ) (s : System κ) (l : Label κ) : Option (System κ) :=
  if s.aborted then none
  else match l with
    | .act thread action => if s.mayAct thread then some (s.act thread action) else none
    | .complete thread => s.complete thread
    | .advance run elapsed =>
      (s.freeTask? run).bind fun t => s.advance setup run t.args elapsed t.point
    | .wake run => (s.tasks[run]?).bind fun t =>
      if t.point.isAsleep then some (s.goto run t.point.wake) else none
    | .call run c => (s.freeTask? run).bind fun t => match t.point with
      | .body _ => some (s.call setup run c)
      | _ => none
    | .returned run => (s.freeTask? run).bind fun t => s.returned run t.point
    | .libraryFailed run error =>
      (s.freeTask? run).bind fun t => s.libraryFailed setup run error t.point
    | .sinkFailed run error => (s.freeTask? run).bind fun t => s.sinkFailed run error t.point
    | .panicked run payload =>
      (s.freeTask? run).bind fun t => s.panicked setup run payload t.point
    | .caught run state => (s.freeTask? run).bind fun t => s.caught run state t.point

/-- Steps in order, if all are possible. -/
def steps (setup : Setup κ) (s : System κ) : List (Label κ) → Option (System κ)
  | [] => some s
  | l :: rest => (s.step setup l).bind fun s => s.steps setup rest

end System

end RunControl
