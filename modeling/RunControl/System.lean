import RunControl.Control
import RunControl.Observers
import RunControl.System.Point

/-!
# A supervisor and the threads around it

`System κ` is a supervisor with its workers, the observers and the threads that call it. An `Action`
is a call to the supervisor, which every thread may make while it runs code of its own. A call is
one critical section (`System.act`) and, for some, a second step (`Pending`, `System.complete`):
waking the sleepers or handing the run to the pool.
-/

namespace RunControl

/-- A thread that can call the supervisor. -/
inductive Thread
  | controller (n : Nat)
  | worker (run : RunId)
deriving DecidableEq

/-- A call to the supervisor, or through the input handle with the given ticket, which settles once.
-/
inductive Action
  | start (args : List String) (mode : DebugMode)
  | resume (mode : DebugMode)
  | interrupt
  | activate (lines : List UInt32)
  | addObserver (o : ObserverId)
  | removeObserver (o : ObserverId)
  | change (change : Snapshot.Change)
  | setInput (provider : ProviderId)
  | setOutput (sink : SinkId)
  | setWorkingDirectory (path : String)
  | settle (ticket : UInt64) (answer : Option Value)

/-- The second step of a call: the lock is released and the sleepers are to be woken, or the start
is accepted and the run is to be handed to the pool. -/
inductive Pending
  | notify
  | submit (args : List String)

/-- A supervisor, its workers and the threads around it: the runs handed to the pool so far, the
threads between the two steps of a call, and the tickets of the handles that have not been settled.
It is `aborted` when a panic has met another one on its way, which ends the process. -/
structure System (κ : Type) where
  control : Control
  roster : Roster ObserverId
  snapshot : Snapshot
  input : ProviderId
  output : SinkId
  workingDirectory : String
  tasks : List (Task κ)
  inFlight : List (Thread × Pending)
  handles : List UInt64
  executions : Nat
  aborted : Bool

namespace System

variable {κ : Type}

def initial (setup : Setup κ) (workingDirectory : String) : System κ :=
  { control := Control.initial setup.info.lineCount
    roster := Roster.empty
    snapshot := Snapshot.empty
    input := 0
    output := 0
    workingDirectory
    tasks := []
    inFlight := []
    handles := []
    executions := 0
    aborted := false }

def point? (s : System κ) (run : RunId) : Option (Point κ) := s.tasks[run]?.map (·.point)

def goto (s : System κ) (run : RunId) (p : Point κ) : System κ :=
  { s with tasks := s.tasks.modify run fun t => { t with point := p } }

/-- A thread is between the two steps of a call. -/
def isBusy (s : System κ) (t : Thread) : Bool := s.inFlight.any fun p => p.1 = t

/-- A thread may make a call: it is not within one, and a worker runs other code. -/
def mayAct (s : System κ) (t : Thread) : Bool :=
  !s.isBusy t && match t with
    | .controller _ => true
    | .worker run => ((s.point? run).map Point.isOutside).getD false

/-- A thread has a second step to do. -/
def promise (s : System κ) (t : Thread) (p : Pending) : System κ :=
  { s with inFlight := s.inFlight ++ [(t, p)] }

/-- The first step of a call. A change of the snapshot for which there is no room is cut short, and
the thread panics within its own code. -/
def act (s : System κ) (t : Thread) : Action → System κ
  | .start args mode => match s.control.start mode with
    | some control => { s with control }.promise t (.submit args)
    | none => s
  | .resume mode => match s.control.resume mode with
    | some control => { s with control }.promise t .notify
    | none => s
  | .interrupt => match s.control.interrupt with
    | some control => { s with control }.promise t .notify
    | none => s
  | .activate lines => { s with control := s.control.activate lines }
  | .addObserver o => { s with roster := s.roster.add o }
  | .removeObserver o => { s with roster := s.roster.remove o }
  | .change change => { s with snapshot := change.apply s.snapshot }
  | .setInput input => { s with input }
  | .setOutput output => { s with output }
  | .setWorkingDirectory workingDirectory => { s with workingDirectory }
  | .settle ticket answer =>
    if ticket ∈ s.handles then
      let s := { s with handles := s.handles.erase ticket }
      match s.control.settle ticket answer with
      | some control => { s with control }.promise t .notify
      | none => s
    else s

def finishCall (s : System κ) : Pending → System κ
  | .notify => { s with tasks := s.tasks.map fun t => { t with point := t.point.wake } }
  | .submit args => { s with tasks := s.tasks ++ [⟨args, .queued⟩] }

/-- Do the second step that a thread owes. -/
def complete (s : System κ) (t : Thread) : Option (System κ) :=
  (s.inFlight.find? fun p => p.1 = t).map fun p =>
    { s with inFlight := s.inFlight.filter fun p => p.1 ≠ t }.finishCall p.2

end System

end RunControl
