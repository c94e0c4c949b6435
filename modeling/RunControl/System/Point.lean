import RunControl.Body
import RunControl.Fault.Translation
import RunControl.Result

/-!
# Where a worker is

A worker runs a program from the pool's call to the end of the run. `Point` lists the places between
its atomic steps; `Point.isOutside` says that code which does not belong to the supervisor runs
there: a callback of an observer, a library, a provider or a sink, or the body. `κ` is the type of
the states of the body.
-/

namespace RunControl

/-- Observers are told apart by name. -/
abbrev ObserverId := String

/-- Input providers are numbered. -/
abbrev ProviderId := Nat

/-- Output sinks are numbered. -/
abbrev SinkId := Nat

/-- Runs are numbered in the order in which they are handed to the pool. -/
abbrev RunId := Nat

/-- What never changes: the program with its libraries, the translators, and the state in which
the body begins, given the number of executions before and the arguments. -/
structure Setup (κ : Type) where
  info : ProgramInfo
  libraries : List String
  translators : Translators
  entry : Nat → List String → κ

/-! ## Workers -/

/-- A worker that pauses: the generation of resumes in which it decided to, the line, and how the
body goes on. -/
structure Hold (κ : Type) where
  generation : UInt64
  line : UInt32
  next : Except Fault Unit → κ

/-- A worker that reads: the ticket, the type, and how the body goes on. -/
structure Ask (κ : Type) where
  ticket : UInt64
  type : DataType
  next : Except Fault Value → κ

/-- How a read ends; it may be by a panic on its way through it. -/
inductive ReadExit (κ : Type)
  | answer (state : κ)
  | unwind (message : String)

/-- What follows a notification. -/
inductive AfterNotice (κ : Type)
  | libraries
  | highlight (hold : Hold κ)
  | hold (hold : Hold κ)
  | proceed (state : κ)
  | awaitAnswer (ask : Ask κ)
  | leaveRead (exit : ReadExit κ)

/-- Where a worker is. A notification is `announcing` until it takes the list of observers and
`telling` while it calls them; of a list of observers or libraries the first one's callback runs. A
pause is tested in `holding` and slept through in `held`. A read looks up the provider in
`requesting`, runs its callback in `asking`, looks for an answer in `checking`, tests for one in
`awaiting` and is closed in `closingRead`. A panic from outside that has reached the body, which may
catch it, is `unwinding`; one that was caught outside the body is `recovering`. All observers are
taken off the roster in `draining`, the run is alive up to `finishing`, and in `ending` they are
told of its end. -/
inductive Point (κ : Type)
  | queued
  | announcing (notice : Notice) (after : AfterNotice κ)
  | telling (notice : Notice) (queue : List ObserverId) (after : AfterNotice κ)
  | initializing (left : List String)
  | body (state : κ)
  | holding (hold : Hold κ)
  | held (hold : Hold κ)
  | requesting (ask : Ask κ)
  | asking (ask : Ask κ) (provider : ProviderId)
  | checking (ask : Ask κ)
  | awaiting (ask : Ask κ)
  | awaitingAsleep (ask : Ask κ)
  | closingRead (exit : ReadExit κ)
  | writing (value : Value) (sink : SinkId) (next : Except Fault Unit → κ)
  | clearing (sink : SinkId) (next : Except Fault Unit → κ)
  | unwinding (message : String)
  | finalizing (left : List String) (outcome : Except Fault Unit)
  | classifying (outcome : Except Fault Unit)
  | recovering (message : String)
  | draining (result : RunResult)
  | finishing (result : RunResult) (watchers : List ObserverId)
  | ending (result : RunResult) (queue : List ObserverId)
  | done

namespace Point

variable {κ : Type}

/-- Code that does not belong to the supervisor runs on the worker. -/
def isOutside : Point κ → Bool
  | telling _ (_ :: _) _ | initializing (_ :: _) | body _ | asking _ _ | writing _ _ _
  | clearing _ _ | unwinding _ | finalizing (_ :: _) _ | ending _ (_ :: _) => true
  | _ => false

/-- The worker sleeps until it is woken. -/
def isAsleep : Point κ → Bool
  | held _ | awaitingAsleep _ => true
  | _ => false

/-- Wake a sleeping worker: it tests its condition again. -/
def wake : Point κ → Point κ
  | held hold => holding hold
  | awaitingAsleep ask => awaiting ask
  | p => p

end Point

/-- A run that was handed to the pool. -/
structure Task (κ : Type) where
  args : List String
  point : Point κ

end RunControl
