import RunControl.Error
import RunControl.Rehearsal.Plan

/-!
# What a rehearsal shows

An `Answer` is what a deed is answered with, `Deed.name` the word for a deed, and an `Entry` a line
of the log that the parties write.
-/

namespace RunControl.Rehearsal

def Deed.name : Deed → String
  | .start _ _ => "start"
  | .resume _ => "resume"
  | .interrupt => "interrupt"
  | .activate _ _ => "activate"
  | .canPause _ => "can_pause"
  | .addObserver _ => "add_observer"
  | .removeObserver _ => "remove_observer"
  | .probe => "probe"
  | .info => "info"
  | .debug => "debug"
  | .change (.configure _ _ _) => "configure"
  | .change _ => "inspect"
  | .query _ => "inspect"
  | .setInput _ => "set_input"
  | .setOutput _ => "set_output"
  | .setWorkingDirectory _ => "set_working_directory"
  | .workingDirectory => "working_directory"
  | .resolve _ => "resolve"
  | .supply _ _ => "supply"
  | .cancel _ => "cancel"
  | .dropHandle _ => "drop_handle"
  | .output => "output"
  | .requests => "requests"
  | .counts _ => "counts"
  | .executions => "executions"
  | .recorded _ => "recorded"
  | .dropSupervisor => "drop_supervisor"

/-- What a deed is answered with; a handle may be missing or used. -/
inductive Answer
  | nothing
  | ok
  | failure (error : ControlError)
  | panic (message : String)
  | truth (b : Bool)
  | state (control : Control)
  | program (info : ProgramInfo)
  | text (s : String)
  | inspected (answer : Snapshot.Answer)
  | noHandle
  | noSupervisor
  | written (values : List Value) (clears : Nat)
  | number (n : Nat)
  | types (types : List DataType)
  | counted (started stopped : Nat)
  | notices (notices : List Notice)

/-- The parties that do deeds from within a callback. -/
inductive Party
  | observer
  | provider
  | library
  | body
deriving DecidableEq

/-- A line of the log. -/
inductive Entry
  | deed (party : Party) (deed : Deed) (answer : Answer)
  | told (observer : String) (notice : Notice)
  | asked (type : DataType)
  | starting (library program : String) (libraries : List String)
  | stopping (library : String)
  | written (v : Value)
  | cleared
  | read (v : Value)
  | args (args : List String)
  | position (position : Position)
  | info (info : ProgramInfo)
  | resolved (path : String)
  | inspected (answer : Snapshot.Answer)
  | caught (fault : Fault)

end RunControl.Rehearsal
