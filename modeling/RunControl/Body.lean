import RunControl.Fault
import RunControl.Inspection

/-!
# Bodies of programs

`Call κ` is what a body does next, where `κ` is the type of its states: it stops, or it asks for
something and says how it goes on for each answer. A function `κ → Call κ` is thus a whole
program. `Body` is the type of all terminating ones, and `Routine` a way to write them line by line:
a fault ends the routine unless it is caught.
-/

namespace RunControl

/-- What a body does next: stop, compute (`think`), or ask the supervisor for something and go on
with the answer. -/
inductive Call (κ : Type)
  | finish (outcome : Except Fault Unit)
  | panic (payload : Payload)
  | think (next : κ)
  | pausePoint (position : Position) (next : Except Fault Unit → κ)
  | checkInterrupted (next : Except Fault Unit → κ)
  | read (type : DataType) (next : Except Fault Value → κ)
  | write (value : Value) (next : Except Fault Unit → κ)
  | clear (next : Except Fault Unit → κ)
  | change (change : Snapshot.Change) (next : κ)
  | query (query : Snapshot.Query) (next : Snapshot.Answer → κ)
  | position (next : Position → κ)
  | resolve (path : String) (next : String → κ)

/-- A body that stops whatever answers it gets. -/
inductive Body
  | ask (call : Call Body)

def Body.next : Body → Call Body
  | ask call => call

/-- Types in which calls can be written. -/
class Asks (κ : Type) where
  ask : Call κ → κ

instance : Asks Body := ⟨Body.ask⟩

/-- The value, if it is of the type that a typed reader expects; any other one is refused. -/
def Value.typed (v : Value) (type : DataType) : Except Fault Value :=
  if v.type = type then .ok v else .error (Fault.invalidInput type)

/-- A piece of a body that ends with an `α` or with a fault, given what follows in either case. -/
def Routine (κ α : Type) : Type := (α → κ) → (Fault → κ) → κ

namespace Routine

variable {κ α β : Type}

instance : Monad (Routine κ) where
  pure a := fun ok _ => ok a
  bind r f := fun ok err => r (fun a => f a ok err) err

def fail (f : Fault) : Routine κ α := fun _ err => err f

variable [Asks κ]

/-- A call that answers with a value or a fault. -/
def lift (call : (Except Fault α → κ) → Call κ) : Routine κ α := fun ok err =>
  Asks.ask (call fun
    | .ok a => ok a
    | .error f => err f)

def pausePoint (line column : UInt32) : Routine κ Unit := lift (Call.pausePoint ⟨line, column⟩)

/-- End with a fault if the run is interrupted. -/
def checkInterrupted : Routine κ Unit := lift Call.checkInterrupted

def read (type : DataType) : Routine κ Value := lift (Call.read type)

def readInteger : Routine κ Int64 := do
  match ← read .integer with
  | .integer n => pure n
  | _ => fail (Fault.invalidInput .integer)

def write (value : Value) : Routine κ Unit := lift (Call.write value)

def clear : Routine κ Unit := lift Call.clear

def change (change : Snapshot.Change) : Routine κ Unit := fun ok _ =>
  Asks.ask (Call.change change (ok ()))

def query (query : Snapshot.Query) : Routine κ Snapshot.Answer := fun ok _ =>
  Asks.ask (Call.query query ok)

def position : Routine κ Position := fun ok _ => Asks.ask (Call.position ok)

/-- Resolve a path against the working directory. -/
def resolve (path : String) : Routine κ String := fun ok _ => Asks.ask (Call.resolve path ok)

def panic (payload : Payload) : Routine κ α := fun _ _ => Asks.ask (Call.panic payload)

def body (r : Routine κ Unit) : κ :=
  r (fun _ => Asks.ask (.finish (.ok ()))) fun f => Asks.ask (.finish (.error f))

end Routine

end RunControl
