import RunControl.Fault.Translation
import RunControl.Result

/-!
# From the outcome of a body to the result of a run

`Fault.diagnostic?` is the one diagnostic of a fault; an interruption has none and a translator may
panic. `RunResult.ofOutcome` is the result of a run whose body stopped with an outcome: coordinates
that are unknown are filled from the last position of the run.
-/

namespace RunControl

/-- The diagnostic of a fault, before unknown coordinates are filled. -/
def Fault.diagnostic? (translators : Translators) (program : ProgramInfo) (last : Position) :
    Fault → Except Payload (Option Diagnostic)
  | .outOfMemory => .ok (some Diagnostic.outOfMemory)
  | .stackOverflow => .ok (some Diagnostic.stackOverflow)
  | .interrupted => .ok none
  | .runtime f => (translators.translate f program last).map some
  | .diagnostic d => .ok (some d)
  | .library e => .ok (some (Diagnostic.unplaced .library e.display))
  | .panic message => .ok (some (Diagnostic.unhandled message))

namespace RunResult

/-- The result of a run whose body stopped with the outcome, or the panic of a translator. -/
def ofOutcome (translators : Translators) (program : ProgramInfo) (last : Position)
    (elapsed : Nat) : Except Fault Unit → Except Payload RunResult
  | .ok () => .ok (normal elapsed)
  | .error fault => (fault.diagnostic? translators program last).map fun
    | none => interrupted elapsed
    | some d => failed (d.fillPosition last) elapsed

/-- The result of a run that a panic outside the body has ended. -/
def ofPanic (message : String) (last : Position) (elapsed : Nat) : RunResult :=
  failed ((Diagnostic.unhandled message).fillPosition last) elapsed

end RunResult

end RunControl
