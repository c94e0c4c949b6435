import RunControl.System.Step

/-!
# What a rehearsal plays

A rehearsal drives one supervisor by a list of deeds and lets observers, providers, sinks, libraries
and the body follow plans. A `Deed` is a call to the supervisor or a look at the rehearsal itself;
most parties may do deeds from within their callbacks. `Step` is what the body does.
-/

namespace RunControl.Rehearsal

/-- How a sink behaves. -/
inductive SinkPlan
  | memory
  | refuseClear
  | refuseWrite

/-- What a provider does with a handle; it may keep it for later. -/
inductive Reply
  | supply (v : Value)
  | cancel
  | drop
  | hold
  | panic (message : String)

mutual

/-- What the controller does, or some party from within a callback. The source of lines to activate
may panic instead of yielding one of them. Of the held handles the latest one is settled unless a
number is given. To let go of the supervisor interrupts its run. -/
inductive Deed
  | start (args : List String) (mode : DebugMode)
  | resume (mode : DebugMode)
  | interrupt
  | activate (lines : List UInt32) (panicAt : Option Nat)
  | canPause (line : UInt32)
  | addObserver (name : String)
  | removeObserver (name : String)
  | probe
  | info
  | debug
  | change (change : Snapshot.Change)
  | query (query : Snapshot.Query)
  | setInput (plan : ProviderPlan)
  | setOutput (plan : SinkPlan)
  | setWorkingDirectory (path : String)
  | workingDirectory
  | resolve (path : String)
  | supply (v : Value) (handle : Option Nat)
  | cancel (handle : Option Nat)
  | dropHandle (handle : Option Nat)
  | output
  | requests
  | counts (library : String)
  | executions
  | recorded (observer : String)
  | dropSupervisor

/-- How a provider behaves: it answers with values and then refuses, keeps every handle in a queue,
or follows answers of which the last one goes on for ever. -/
inductive ProviderPlan
  | scripted (values : List Value)
  | pending
  | answering (answers : List AnswerPlan) (otherwise : AnswerPlan)

/-- One answer of a provider, with deeds before and after. -/
inductive AnswerPlan
  | mk (first : Option Deed) (reply : Reply) (afterwards : Option Deed)

end

/-- What an observer does when it is called. -/
inductive Reaction
  | deed (deed : Deed)
  | panic (message : String)

/-- How an observer behaves: it notes each call and reacts depending on the notice, or keeps the
notices and does a deed at each pause. -/
inductive ObserverPlan
  | scripted (react : Notice → List Reaction)
  | recording (onPaused : Option Deed)

/-- How a library call ends; an error is in the name of the library unless another is given. -/
inductive LibraryEnd
  | success
  | error (library : Option String) (message : String)
  | panic (payload : Payload)

/-- How a library behaves in one of its two calls. -/
structure LibraryPhase where
  deed : Option Deed
  ending : LibraryEnd

/-- The way in which a counting library misbehaves. -/
inductive Misbehaviour
  | none
  | failStart
  | panicStart
  | failStop
  | panicStop
deriving DecidableEq

/-- How a library behaves; one that counts only counts its calls. -/
inductive LibraryPlan
  | scripted (starting stopping : LibraryPhase)
  | counting (misbehaviour : Misbehaviour)

/-- What a body does. Inside a loop a pause may add the number of the turn to the line. A value is
read through a typed reader unless raw, and remembered for `writeLast` and `showLast`. Steps are
done if the first argument is the given one, or with `attempt`, which carries on after a fault. -/
inductive Step
  | pause (line column : UInt32) (plusTurn : Bool)
  | check
  | read (type : DataType) (raw : Bool)
  | write (v : Value)
  | writeLast
  | clear
  | args
  | ifArgument (argument : String) (steps : List Step)
  | position
  | info
  | resolve (path : String)
  | change (change : Snapshot.Change)
  | query (query : Snapshot.Query)
  | showLast (id : Nat)
  | fault (fault : Fault)
  | panic (payload : Payload)
  | deed (deed : Deed)
  | loop (times : Nat) (steps : List Step)
  | attempt (steps : List Step)

end RunControl.Rehearsal
