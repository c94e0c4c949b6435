import RunControl.Breakpoints
import RunControl.Fault

/-!
# The control state

One record, guarded by one lock, in which a controller, the worker and the holders of input
handles meet. Each function below is one critical section. `start`, `resume`, `interrupt` and
`settle` answer `none` when they leave the state alone.

* a pause: `reach` decides and remembers the generation of resumes, `isHeld` is the condition on
  which the worker waits;
* a read: `openRead` issues a ticket, `awaitsAnswer` is the condition on which the worker waits,
  `takeAnswer` decides and `closeRead` ends the read.
-/

namespace RunControl

/-- What has become of a read so far. -/
inductive ReadOutcome
  | pending
  | supplied (v : Value)
  | cancelled
deriving DecidableEq

/-- The outcome of a read that is settled by a value or by a refusal. -/
def ReadOutcome.ofAnswer : Option Value → ReadOutcome
  | some v => supplied v
  | none => cancelled

/-- The read in progress, or what the last one left behind: it is `abandoned` if the run has been
resumed meanwhile. The ticket is the number of the latest read, which wraps around. -/
structure ReadState where
  awaiting : Bool
  abandoned : Bool
  ticket : UInt64
  outcome : ReadOutcome
deriving DecidableEq

namespace ReadState

def initial : ReadState := ⟨false, false, 0, .pending⟩

def isOpen (r : ReadState) : Bool := r.outcome == .pending && !r.abandoned

end ReadState

/-- The state of a supervisor and its run. It is `alive` from an accepted start to the end of the
run. The generation changes with every resume and wraps around; the position is the last one that
the run reported. -/
structure Control where
  mode : DebugMode
  breakpoints : Breakpoints
  alive : Bool
  interrupted : Bool
  generation : UInt64
  position : Position
  read : ReadState
deriving DecidableEq

/-- What becomes of a run that reports a position. -/
inductive PauseDecision
  | interrupted
  | pass
  | pause (generation : UInt64)
deriving DecidableEq

namespace Control

/-- Before the first run of a program of `lineCount` lines. -/
def initial (lineCount : Nat) : Control :=
  { mode := .stopped
    breakpoints := Breakpoints.none lineCount
    alive := false
    interrupted := false
    generation := 0
    position := Position.unknown
    read := ReadState.initial }

/-- A run is on its way and has not been interrupted. -/
def isRunning (c : Control) : Bool := c.alive && !c.interrupted

/-- The run would pause at the line. -/
def canPause (c : Control) (line : UInt32) : Bool := c.breakpoints.shouldPause c.mode line

/-! ## Calls of a controller -/

/-- Start a run, unless one is on its way. -/
def start (c : Control) (mode : DebugMode) : Option Control :=
  if c.alive then none
  else some
    { c with
      interrupted := false
      mode
      alive := true
      position := Position.unknown }

/-- Resume the run in a mode. A read in progress is abandoned. -/
def resume (c : Control) (mode : DebugMode) : Option Control :=
  if c.isRunning then
    some
      { c with
        mode
        read := if c.read.awaiting then { c.read with abandoned := true } else c.read
        generation := c.generation + 1 }
  else none

def interrupt (c : Control) : Option Control :=
  if !c.alive || c.interrupted then none else some { c with interrupted := true }

def activate (c : Control) (lines : List UInt32) : Control :=
  { c with breakpoints := c.breakpoints.activate lines }

/-- Settle the read with the given ticket by a value or by a refusal, if it is still open. -/
def settle (c : Control) (ticket : UInt64) (answer : Option Value) : Option Control :=
  if !c.read.awaiting || c.read.ticket != ticket || !c.read.isOpen then none
  else some { c with read := { c.read with outcome := ReadOutcome.ofAnswer answer } }

/-! ## Sections of the worker -/

/-- Report a position and decide whether to pause there. -/
def reach (c : Control) (position : Position) : Control × PauseDecision :=
  ({ c with position },
    if c.interrupted then .interrupted
    else if c.canPause position.line then .pause c.generation
    else .pass)

/-- A worker that paused in the given generation has to wait. -/
def isHeld (c : Control) (generation : UInt64) : Bool :=
  c.generation == generation && !c.interrupted

/-- Open a read, unless the run is interrupted. Its ticket is `read.ticket` afterwards. -/
def openRead (c : Control) : Option Control :=
  if c.interrupted then none
  else some { c with read := ⟨true, false, c.read.ticket + 1, .pending⟩ }

/-- A worker that reads has to wait. -/
def awaitsAnswer (c : Control) : Bool := c.read.isOpen && !c.interrupted

/-- Take the outcome of a read of the given type. Only a value supplied before any resume and
convertible to the type is an answer. -/
def takeAnswer (c : Control) (type : DataType) : Control × Except Fault Value :=
  if c.interrupted then (c, .error .interrupted)
  else
    ({ c with read := { c.read with outcome := .pending } },
      match c.read.outcome with
      | .supplied v =>
        if c.read.abandoned then .error (Fault.invalidInput type)
        else match v.coerce type with
          | some w => .ok w
          | none => .error (Fault.invalidInput type)
      | _ => .error (Fault.invalidInput type))

def closeRead (c : Control) : Control :=
  { c with read := { c.read with awaiting := false, outcome := .pending } }

/-- The worker is no longer at work. -/
def finish (c : Control) : Control := { c with alive := false }

end Control

end RunControl
