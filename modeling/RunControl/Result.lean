import RunControl.Diagnostic

/-!
# Results and notices

A `RunResult` is everything a controller learns at the end of a run; `Notice` is what observers
are told on the way there.
-/

namespace RunControl

/-- How a run ended. -/
inductive Termination
  | normal
  | error
  | interrupted
deriving DecidableEq

namespace Termination

def name : Termination → String
  | normal => "normal"
  | error => "error"
  | interrupted => "interrupted"

def all : List Termination := [normal, error, interrupted]

/-- The exit status of a program that ended so. -/
def exitCode : Termination → Nat
  | normal => 0
  | error => 1
  | interrupted => 130

end Termination

/-- The end of a run: how it ended, why, and after how many nanoseconds. -/
structure RunResult where
  termination : Termination
  error : Option Diagnostic
  elapsed : Nat
deriving DecidableEq

namespace RunResult

def normal (elapsed : Nat) : RunResult := ⟨.normal, none, elapsed⟩

def interrupted (elapsed : Nat) : RunResult := ⟨.interrupted, none, elapsed⟩

def failed (error : Diagnostic) (elapsed : Nat) : RunResult := ⟨.error, some error, elapsed⟩

/-- The time of a run in nanoseconds, from its seconds and what goes beyond them. -/
def elapsedOf? (seconds nanoseconds : Nat) : Option Nat :=
  let elapsed := seconds * 1000000000 + nanoseconds
  if elapsed / 1000000000 < UInt64.size then some elapsed else none

/-- What is said about a time whose seconds do not fit a 64-bit word. -/
def overlongMessage : String := "overflow in Duration::new"

def isSuccess (r : RunResult) : Bool := r.termination == .normal

/-- The whole milliseconds of the run, as a 64-bit word. -/
def elapsedMillis (r : RunResult) : UInt64 := UInt64.ofNat (r.elapsed / 1000000)

end RunResult

/-- What observers are told about a run. -/
inductive Notice
  | started
  | paused
  | resumed
  | lineHighlighted (line : UInt32)
  | ended (result : RunResult)
deriving DecidableEq

end RunControl
