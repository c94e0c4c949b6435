import RunControl.Rehearsal.Log
import RunControl.Text.Quoted

/-!
# The stage of a rehearsal

A `Stage` holds the system and everything that the parties remember. `Stage.perform` does a deed on
behalf of a thread, by steps of the system.
-/

namespace RunControl.Rehearsal

/-- What a provider remembers: the values left and the types asked for, latest first; or the tickets
of handles nobody has taken, and the number of requests. -/
inductive ProviderState
  | scripted (left : List Value) (asked : List DataType)
  | pending (queue : List UInt64) (count : Nat)
  | answering (left : List AnswerPlan) (otherwise : AnswerPlan)

/-- A provider that has not been asked. -/
def ProviderState.ofPlan : ProviderPlan → ProviderState
  | .scripted values => scripted values []
  | .pending => pending [] 0
  | .answering answers otherwise => answering answers otherwise

/-- What a sink remembers: the values written since the last clear, latest first. -/
structure SinkState where
  plan : SinkPlan
  values : List Value
  clears : Nat

def SinkState.ofPlan (plan : SinkPlan) : SinkState := ⟨plan, [], 0⟩

/-- A system and what the parties around it remember: whether the supervisor is `present`, the log
since it was last taken, the tickets of the handles that were kept and whether each has been used,
the notices of recording observers, all latest first, and how often counting libraries have been
started and stopped. -/
structure Stage (κ : Type) where
  setup : Setup κ
  isDirectory : String → Bool
  observers : List (String × ObserverPlan)
  libraries : List LibraryPlan
  system : System κ
  present : Bool
  log : List Entry
  providers : List ProviderState
  sinks : List SinkState
  held : List (UInt64 × Bool)
  records : List (String × Notice)
  counted : List (Nat × Nat)

namespace Stage

variable {κ : Type}

def note (st : Stage κ) (entry : Entry) : Stage κ := { st with log := entry :: st.log }

/-- Do a step of the system, if it is possible. -/
def step (st : Stage κ) (l : Label κ) : Stage κ :=
  match st.system.step st.setup l with
  | some system => { st with system }
  | none => st

/-- Make a call to the supervisor, both steps. -/
def act (st : Stage κ) (t : Thread) (a : Action) : Stage κ :=
  let st := st.step (.act t a)
  if st.system.isBusy t then st.step (.complete t) else st

/-- Settle a handle that was kept, by number or the latest one. -/
def settleHeld (st : Stage κ) (t : Thread) (handle : Option Nat) (answer : Option Value) :
    Stage κ × Answer :=
  let number := handle.getD (st.held.length - 1)
  match st.held[number]? with
  | some (ticket, false) =>
    ({ st with held := st.held.set number (ticket, true) }.act t (.settle ticket answer),
      .nothing)
  | _ => (st, .noHandle)

/-- Settle a handle: the first one that nobody has taken while a read waits for a provider that
keeps them all, else one that was kept. -/
def settle (st : Stage κ) (t : Thread) (handle : Option Nat) (answer : Option Value) :
    Stage κ × Answer :=
  match st.providers[st.system.input]?, st.system.control.read.awaiting with
  | some (.pending (ticket :: queue) count), true =>
    ({ st with providers := st.providers.set st.system.input (.pending queue count) }.act t
      (.settle ticket answer), .nothing)
  | some (.pending [] _), true => (st, .noHandle)
  | _, _ => st.settleHeld t handle answer

def describe (st : Stage κ) : String :=
  "Supervisor \x7b program: " ++ Text.quote st.setup.info.name ++ ", running: " ++
    (if st.system.control.isRunning then "true" else "false") ++ ", .. \x7d"

/-- The place of a counting library. -/
def countingPlace? (st : Stage κ) (name : String) : Option Nat :=
  (st.setup.libraries.zip st.libraries).findIdx? fun
    | (library, .counting _) => library = name
    | _ => false

/-- Do a deed that needs the supervisor. -/
def performPresent (st : Stage κ) (t : Thread) : Deed → Stage κ × Answer
  | .start args mode => (st.act t (.start args mode), .nothing)
  | .resume mode =>
    (st.act t (.resume mode),
      if st.system.control.isRunning then .ok else .failure (.notRunning st.setup.info.name))
  | .interrupt => (st.act t .interrupt, .nothing)
  | .activate lines panicAt => match panicAt with
    | some n =>
      if n < lines.length then
        (st.act t (.activate (lines.take n)), .panic "line source failed")
      else (st.act t (.activate lines), .nothing)
    | none => (st.act t (.activate lines), .nothing)
  | .canPause line => (st, .truth (st.system.control.canPause line))
  | .addObserver name => (st.act t (.addObserver name), .nothing)
  | .removeObserver name => (st.act t (.removeObserver name), .nothing)
  | .probe => (st, .state st.system.control)
  | .info => (st, .program st.setup.info)
  | .debug => (st, .text st.describe)
  | .change change =>
    (st.act t (.change change),
      if change.overflows st.system.snapshot then .panic Memory.overflowMessage else .nothing)
  | .query query => (st, .inspected (st.system.snapshot.answer query))
  | .setInput plan =>
    ({ st with providers := st.providers ++ [ProviderState.ofPlan plan] }.act t
      (.setInput st.providers.length), .nothing)
  | .setOutput plan =>
    ({ st with sinks := st.sinks ++ [SinkState.ofPlan plan] }.act t
      (.setOutput st.sinks.length), .nothing)
  | .setWorkingDirectory path =>
    if st.isDirectory path then (st.act t (.setWorkingDirectory path), .ok)
    else (st, .failure (.invalidWorkingDirectory path))
  | .workingDirectory => (st, .text st.system.workingDirectory)
  | .resolve path => (st, .text (Path.resolve st.system.workingDirectory path))
  | .requests => (st, match st.providers[st.system.input]? with
    | some (.scripted _ asked) => .types asked.reverse
    | some (.pending _ count) => .number count
    | _ => .nothing)
  | .counts name =>
    (st, match (st.countingPlace? name).bind fun place => st.counted[place]? with
      | some (started, stopped) => .counted started stopped
      | none => .nothing)
  | .executions => (st, .number st.system.executions)
  | .recorded name => (st, match st.observers.lookup name with
    | some (.recording _) =>
      .notices ((st.records.filter fun r => r.1 = name).map (·.2)).reverse
    | _ => .nothing)
  | .dropSupervisor => ({ st with present := false }.act t .interrupt, .nothing)
  | _ => (st, .nothing)

/-- Do a deed. Handles and the output can be reached without the supervisor. -/
def perform (st : Stage κ) (t : Thread) (d : Deed) : Stage κ × Answer :=
  match d with
  | .supply v handle => st.settle t handle (some v)
  | .cancel handle => st.settle t handle none
  | .dropHandle handle => st.settle t handle none
  | .output => (st, match st.sinks.getLast? with
    | some sink => .written sink.values.reverse sink.clears
    | none => .nothing)
  | d => if st.present then st.performPresent t d else (st, .noSupervisor)

/-- Do a deed from within a callback and write it to the log. -/
def performNoted (st : Stage κ) (run : RunId) (party : Party) (d : Deed) : Stage κ :=
  let (st, answer) := st.perform (.worker run) d
  st.note (.deed party d answer)

end Stage

end RunControl.Rehearsal
