import RunControl.Rehearsal.Performance
import RunControl.Rehearsal.Stage

/-!
# Sessions

A session does deeds one after the other. After each one the workers go on until they sleep or are
done, with the parties following their plans (`Stage.settleDown`), so a session shows for each deed
its answer, what the parties logged, and the state of the supervisor.
-/

namespace RunControl.Rehearsal

namespace Stage

variable {κ : Type}

/-- A panic of a recording or scripted party, or a plain return. -/
def leave (st : Stage κ) (run : RunId) : Option Payload → Stage κ
  | some payload => st.step (.panicked run payload)
  | none => st.step (.returned run)

/-- The reactions of an observer, up to a panic. -/
def react (st : Stage κ) (run : RunId) : List Reaction → Stage κ
  | [] => st.leave run none
  | .panic message :: _ => st.leave run (some (.text message))
  | .deed d :: rest => (st.performNoted run .observer d).react run rest

def tell (st : Stage κ) (run : RunId) (o : ObserverId) (notice : Notice) : Stage κ :=
  match st.observers.lookup o with
  | some (.scripted reactions) => (st.note (.told o notice)).react run (reactions notice)
  | some (.recording onPaused) =>
    let st := { st with records := (o, notice) :: st.records }
    match notice, onPaused with
    | .paused, some d => (st.performNoted run .observer d).leave run none
    | _, _ => st.leave run none
  | none => st.leave run none

def endLibrary (st : Stage κ) (run : RunId) (name : String) : LibraryEnd → Stage κ
  | .success => st.leave run none
  | .error library message => st.step (.libraryFailed run ⟨library.getD name, message⟩)
  | .panic payload => st.leave run (some payload)

def count (st : Stage κ) (place : Nat) (f : Nat × Nat → Nat × Nat) : Stage κ :=
  { st with counted := st.counted.modify place f }

def startLibrary (st : Stage κ) (run : RunId) (place : Nat) (name : String) : Stage κ :=
  match st.libraries[place]? with
  | some (.scripted starting _) =>
    let st := st.note (.starting name st.setup.info.name st.setup.libraries)
    let st := match starting.deed with
      | some d => st.performNoted run .library d
      | none => st
    st.endLibrary run name starting.ending
  | some (.counting misbehaviour) =>
    let st := st.count place fun c => (c.1 + 1, c.2)
    match misbehaviour with
    | .failStart => st.endLibrary run name (.error none "initialization refused")
    | .panicStart =>
      st.endLibrary run name (.panic (.text (name ++ " exploded while initializing")))
    | _ => st.leave run none
  | none => st.leave run none

def stopLibrary (st : Stage κ) (run : RunId) (place : Nat) (name : String) : Stage κ :=
  match st.libraries[place]? with
  | some (.scripted _ stopping) =>
    let st := st.note (.stopping name)
    let st := match stopping.deed with
      | some d => st.performNoted run .library d
      | none => st
    st.endLibrary run name stopping.ending
  | some (.counting misbehaviour) =>
    let st := st.count place fun c => (c.1, c.2 + 1)
    match misbehaviour with
    | .failStop => st.endLibrary run name (.error none "finalization refused")
    | .panicStop => st.endLibrary run name (.panic (.text (name ++ " exploded while finalizing")))
    | _ => st.leave run none
  | none => st.leave run none

/-- Do a deed of a provider, if there is one. -/
def provide (st : Stage κ) (run : RunId) : Option Deed → Stage κ
  | some d => st.performNoted run .provider d
  | none => st

/-- The callback of a provider that follows answers. -/
def reply (st : Stage κ) (run : RunId) (ticket : UInt64) : AnswerPlan → Stage κ
  | .mk first reply afterwards =>
    let st := st.provide run first
    let settled (answer : Option Value) := st.act (.worker run) (.settle ticket answer)
    match reply with
    | .supply v => ((settled (some v)).provide run afterwards).leave run none
    | .cancel | .drop => ((settled none).provide run afterwards).leave run none
    | .hold =>
      ({ st with held := st.held ++ [(ticket, false)] }.provide run afterwards).leave run none
    | .panic message => (settled none).leave run (some (.text message))

def request (st : Stage κ) (run : RunId) (provider : ProviderId) (ticket : UInt64)
    (type : DataType) : Stage κ :=
  match st.providers[provider]? with
  | some (.scripted left asked) =>
    let next := ProviderState.scripted left.tail (type :: asked)
    let st := { st with providers := st.providers.set provider next }
    (st.act (.worker run) (.settle ticket left.head?)).leave run none
  | some (.pending queue count) =>
    let next := ProviderState.pending (queue ++ [ticket]) (count + 1)
    { st with providers := st.providers.set provider next }.leave run none
  | some (.answering left otherwise) =>
    let st := st.note (.asked type)
    let next := ProviderState.answering left.tail otherwise
    let st := { st with providers := st.providers.set provider next }
    st.reply run ticket (left.head?.getD otherwise)
  | none => st.leave run none

/-- The callback of a sink for a write. -/
def accept (st : Stage κ) (run : RunId) (sink : SinkId) (v : Value) : Stage κ :=
  let st := st.note (.written v)
  match st.sinks[sink]? with
  | some ⟨.refuseWrite, _, _⟩ => st.step (.sinkFailed run ⟨"sink closed"⟩)
  | _ =>
    let write (s : SinkState) : SinkState := { s with values := v :: s.values }
    { st with sinks := st.sinks.modify sink write }.leave run none

/-- The callback of a sink for a clear. -/
def wipe (st : Stage κ) (run : RunId) (sink : SinkId) : Stage κ :=
  let st := st.note .cleared
  match st.sinks[sink]? with
  | some ⟨.refuseClear, _, _⟩ => st.step (.sinkFailed run ⟨"cannot clear"⟩)
  | _ =>
    let clear (s : SinkState) : SinkState := { s with values := [], clears := s.clears + 1 }
    { st with sinks := st.sinks.modify sink clear }.leave run none

def playMove (st : Stage κ) (run : RunId) : Move κ → Stage κ
  | .call call => st.step (.call run call)
  | .note entry rest => (st.note entry).step (.call run (.think rest))
  | .deed d rest => (st.performNoted run .body d).step (.call run (.think rest))

/-- The next thing that happens on a worker: a callback follows its plan, the body makes its move,
or the worker goes on by itself. -/
def stepWorker (moves : κ → Move κ) (st : Stage κ) (run : RunId) : Point κ → Stage κ
  | .telling notice (o :: _) _ => st.tell run o notice
  | .ending result (o :: _) => st.tell run o (.ended result)
  | .initializing (name :: left) =>
    st.startLibrary run (st.setup.libraries.length - (left.length + 1)) name
  | .finalizing (name :: left) _ =>
    st.stopLibrary run (st.setup.libraries.length - (left.length + 1)) name
  | .asking ask provider => st.request run provider ask.ticket ask.type
  | .writing v sink _ => st.accept run sink v
  | .clearing sink _ => st.wipe run sink
  | .body state => st.playMove run (moves state)
  | _ => st.step (.advance run 0)

def isAtRest : Point κ → Bool
  | .held _ | .awaitingAsleep _ | .done => true
  | _ => false

/-- The latest worker that has something to do. The others only tell observers of the end of their
runs, which takes longer than to begin a run. -/
def activeRun? (st : Stage κ) : Option RunId :=
  (List.range st.system.tasks.length).reverse.find? fun run =>
    (st.system.point? run).any fun p => !isAtRest p

/-- A worker that has not come to rest after so many steps is taken to run for ever. -/
def patience : Nat := 1000000000

/-- Let the workers go on until all are at rest. -/
def settleDown (moves : κ → Move κ) : Nat → Stage κ → Stage κ
  | 0, st => st
  | fuel + 1, st =>
    if st.system.aborted then st
    else match st.activeRun? with
      | none => st
      | some run => match st.system.point? run with
        | some p => settleDown moves fuel (st.stepWorker moves run p)
        | none => st

end Stage

/-- What is seen of a deed: its answer, what was logged, and the state afterwards. -/
structure Scene.Outcome where
  answer : Answer
  log : List Entry
  state : Option Control

/-- Do deeds one after the other; `none` if the process ends on the way. -/
def playDeeds {κ : Type} (moves : κ → Move κ) : List Deed → Stage κ → Option (List Scene.Outcome)
  | [], _ => some []
  | d :: rest, st =>
    let (st, answer) := st.perform (.controller 0) d
    let st := st.settleDown moves Stage.patience
    let outcome : Scene.Outcome :=
      { answer
        log := st.log.reverse
        state := if st.present then some st.system.control else none }
    if st.system.aborted then none
    else (playDeeds moves rest { st with log := [] }).map (outcome :: ·)

/-- What the supervisor of a session is built with. -/
structure Cast where
  info : ProgramInfo
  libraries : List (String × LibraryPlan)
  observers : List (String × ObserverPlan)
  translators : Translators
  input : ProviderPlan
  output : SinkPlan
  workingDirectory : String
  inspection : Option (Nat × Nat × Nat)
  isDirectory : String → Bool

/-- There is no room for the lines of the program or for what is to be inspected. -/
def Cast.isOversized (c : Cast) : Bool :=
  Breakpoints.isOversized c.info.lineCount || c.inspection.any fun (scalars, vectors, matrices) =>
    (Snapshot.Change.configure scalars vectors matrices).overflows Snapshot.empty

/-- The stage before the first deed; the working directory has to be a directory. -/
def Cast.stage? {κ : Type} (c : Cast) (entry : Nat → List String → κ) :
    Except ControlError (Stage κ) :=
  if c.isDirectory c.workingDirectory then
    let setup : Setup κ :=
      { info := c.info, libraries := c.libraries.map (·.1), translators := c.translators, entry }
    let system := System.initial setup c.workingDirectory
    .ok
      { setup
        isDirectory := c.isDirectory
        observers := c.observers
        libraries := c.libraries.map (·.2)
        system := match c.inspection with
          | some (scalars, vectors, matrices) =>
            let change := Snapshot.Change.configure scalars vectors matrices
            { system with snapshot := change.apply system.snapshot }
          | none => system
        present := true
        log := []
        providers := [ProviderState.ofPlan c.input]
        sinks := [SinkState.ofPlan c.output]
        held := []
        records := []
        counted := c.libraries.map fun _ => (0, 0) }
  else .error (.invalidWorkingDirectory c.workingDirectory)

/-- Play the steps of a run. The run number `k` plays the `k`-th list, or the last one. -/
def Cast.entry (c : Cast) (runs : List (List Step)) (execution : Nat) (args : List String) :
    Performance :=
  performance ⟨args, c.info⟩ ((runs[execution]?.or runs.getLast?).getD [])

/-- A session with a body given by steps. -/
def Cast.session (c : Cast) (runs : List (List Step)) (deeds : List Deed) :
    Except ControlError (Option (List Scene.Outcome)) :=
  (c.stage? (c.entry runs)).map (playDeeds Performance.move deeds)

/-- A session with a body that is given itself. -/
def Cast.sessionOf (c : Cast) (body : List String → Body) (deeds : List Deed) :
    Except ControlError (Option (List Scene.Outcome)) :=
  (c.stage? fun _ => body).map (playDeeds (fun b => .call b.next) deeds)

end RunControl.Rehearsal
