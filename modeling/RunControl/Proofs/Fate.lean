import RunControl.Proofs.Dialogue
import RunControl.Proofs.Progress

/-!
# What will have been said

Wherever the worker and the command loop are, what they will have said in the end follows from where
they are: the loop deals with the notices that are on their way to it, and the worker goes on.

* `History`, `Terminal.dialogue`: what has been said so far;
* `Terminal.news`, `Terminal.settled`: the same once the loop has dealt with all notices;
* **`Terminal.fate`**: what will have been said at the end of the run;
* `Terminal.labour`: how much the two sides still have to do before the next call or line.
-/

namespace RunControl

open TerminalPlan

/-! ## What has been said -/

/-- The text, unless a log record is made. -/
def Shown.text? : Shown → Option String
  | text _ s => some s
  | log _ => none

/-- Why the loop lets go of the supervisor. -/
def LoopPoint.failure? : LoopPoint → Option String
  | failing message | leaving message | done (.error message) => some message
  | _ => none

/-- What the state of a terminal does not tell of its past: the modes in which the loop has resumed
the run, latest first, and how many calls the body has made. -/
structure History where
  modes : List DebugMode
  calls : Nat

/-- The mode of a command that resumes. -/
def ConsoleLine.mode? : ConsoleLine → Option DebugMode
  | text s => match Command.ofText s with
    | .ok command => command.resumeMode
    | .error _ => none
  | garbled => none

namespace Terminal

/-- The mode in which the loop resumes the run in its next step. -/
def chosen? (t : Terminal) : Side → Option DebugMode
  | .worker => none
  | .loop => if t.loopReads then t.input.head?.bind ConsoleLine.mode? else none

/-- The body makes a call in the next step. -/
def isCall (t : Terminal) : Side → Bool
  | .worker => !t.system.isBusy (.worker run) && match t.system.point? run with
    | some (.body _) => true
    | _ => false
  | .loop => false

/-- The texts that have been shown, latest first. -/
def texts (t : Terminal) : List String := t.shown.filterMap Shown.text?

/-- What has been said. -/
def dialogue (t : Terminal) (h : History) : Dialogue :=
  { control := t.system.control
    snapshot := t.system.snapshot
    workingDirectory := t.system.workingDirectory
    input := t.input
    readers := t.readers
    modes := h.modes
    texts := t.texts
    calls := h.calls
    failure := t.loop.failure?
    result := none }

end Terminal

/-- The history after a step of a side. -/
def History.next (h : History) (t : Terminal) (side : Side) : History :=
  ⟨(t.chosen? side).toList ++ h.modes, h.calls + if t.isCall side then 1 else 0⟩

/-! ## What the loop has still to do -/

/-- The loop does something when it receives the notice. -/
def Notice.counts : Notice → Bool
  | lineHighlighted _ | ended _ => true
  | _ => false

/-- The loop deals with a notice. -/
def Dialogue.hear (p : TerminalPlan) (d : Dialogue) : Notice → Dialogue
  | .lineHighlighted line => d.pause p line
  | .ended result => { d with result := some result.timeless }
  | _ => d

/-- The notices that the worker is about to send. -/
def Point.undelivered {κ : Type} : Point κ → List Notice
  | telling notice queue _ => List.replicate queue.length notice
  | ending result queue => List.replicate queue.length (.ended result)
  | _ => []

namespace Terminal

/-- The notices that the loop has still to deal with. -/
def news (t : Terminal) : List Notice :=
  (t.events ++ ((t.system.point? run).map Point.undelivered).getD []).filter Notice.counts

/-- What will have been said when the loop has dealt with everything that has been decided. -/
def settled (t : Terminal) (h : History) : Dialogue :=
  let d := t.dialogue h
  t.news.foldl (Dialogue.hear t.plan) (match t.loop with
    | .starting => { d with control := (d.control.start t.plan.mode).getD d.control }
    | .prompting => d.command t.plan d.input
    | .failing _ => d.interrupt
    | _ => d)

end Terminal

/-! ## What the worker has still to do -/

section Worker

variable (p : TerminalPlan)

/-- A paused demo goes on. -/
def Hold.fate (hold : Hold Body) (d : Dialogue) : Dialogue := (hold.next d.verdict).perform p d

/-- A demo whose read has been answered goes on. -/
def Ask.fate (ask : Ask Body) (x : Dialogue × Except Fault Value) : Dialogue :=
  (ask.next x.2).perform p x.1

/-- What will have been said after a read has been left. -/
def ReadExit.fate (d : Dialogue) : ReadExit Body → Dialogue
  | answer state => state.perform p d
  | unwind message => d.conclude p (.error (.panic message))

/-- What will have been said after a notification. -/
def AfterNotice.fate (d : Dialogue) : AfterNotice Body → Dialogue
  | libraries => p.begin d
  | highlight h => h.fate p (d.pause p h.line)
  | hold h => h.fate p d
  | proceed state => state.perform p d
  | awaitAnswer ask => ask.fate p (d.leave ask.type)
  | leaveRead exit => exit.fate p d

/-- What will have been said, from the place of the worker on. -/
def Point.fate (console : ConsolePoint) (d : Dialogue) : Point Body → Dialogue
  | queued | initializing _ => p.begin d
  | announcing notice after => after.fate p (d.hear p notice)
  | telling _ _ after => after.fate p d
  | body state => state.perform p d
  | holding hold | held hold => hold.fate p d
  | requesting ask => ask.fate p (d.enter ask.ticket ask.type)
  | asking ask _ => ask.fate p (match console with
    | .idle => d.enter ask.ticket ask.type
    | .entered answer => d.answer ask.ticket ask.type answer
    | .answered => d.leave ask.type)
  | checking ask | awaiting ask | awaitingAsleep ask => ask.fate p (d.leave ask.type)
  | closingRead exit => exit.fate p { d with control := d.control.closeRead }
  | writing value _ next => (next (.ok ())).perform p (d.say value.display)
  | clearing _ next => (next (.ok ())).perform p (d.say clearScreen)
  | unwinding message => d.conclude p (.error (.panic message))
  | finalizing _ outcome | classifying outcome => d.conclude p outcome
  | recovering message => d.finish (RunResult.ofPanic message d.control.position 0)
  | draining result | finishing result _ => d.finish result
  | ending _ _ | done => d

end Worker

namespace Terminal

/-- What will have been said at the end of the run. -/
def fate (t : Terminal) (h : History) : Dialogue :=
  match t.system.point? run with
  | some q => q.fate t.plan t.console (t.settled h)
  | none => t.plan.begin (t.settled h)

end Terminal

/-! ## How much there is to do -/

/-- How much there is to do at a place of the worker. -/
def Point.weight {κ : Type} (q : Point κ) : Nat :=
  8 * q.stage + 4 * q.left + match q with
    | holding _ | awaiting _ => 1
    | _ => 0

/-- How much there is to do in a call for a value. -/
def ConsolePoint.weight : ConsolePoint → Nat
  | idle => 6
  | entered _ => 4
  | answered => 0

/-- How much there is to do for the loop, apart from notices and commands. -/
def LoopPoint.weight : LoopPoint → Nat
  | starting | failing _ => 4
  | leaving _ => 1
  | _ => 0

/-- How much there is to do before the next call of the body or the next line of the input. -/
def Terminal.labour (t : Terminal) : Nat :=
  2 * t.events.length + 2 * t.system.inFlight.length + t.console.weight + t.loop.weight +
    match t.system.point? run with
    | some q => q.weight
    | none => 110

end RunControl
