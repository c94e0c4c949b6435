import Mathlib.Data.Nat.Basic
import RunControl.Terminal

/-!
# A demo as a dialogue

What a user and a demo say to each other, one after the other and without threads: the demo goes on
until it pauses, then the user is asked for a command, and so on. A dialogue knows neither a queue
of notices nor sleepers, and not the stream on which a text is shown.

* `Dialogue`: what has been said so far, and all that decides how it goes on;
* `Dialogue.command`, `Dialogue.pause`, `Dialogue.enter`: what the user is asked for;
* **`Body.perform`**, **`TerminalPlan.dialogue`**: a demo from its start to its result.
-/

namespace RunControl

/-- What has been said at a terminal so far, and what decides how it goes on: the lines that nobody
has read, who has read, the modes in which the user has resumed the demo, the texts that have been
shown without the report, each latest first, how many calls the demo has made, and why the input
could not be read. The result is less the time. -/
structure Dialogue where
  control : Control
  snapshot : Snapshot
  workingDirectory : String
  input : List ConsoleLine
  readers : List Side
  modes : List DebugMode
  texts : List String
  calls : Nat
  failure : Option String
  result : Option RunResult

/-- A result less the time. -/
def RunResult.timeless (r : RunResult) : RunResult := { r with elapsed := 0 }

@[simp]
theorem RunResult.timeless_error (r : RunResult) : r.timeless.error = r.error := rfl

namespace Dialogue

/-- Show a text. -/
def say (d : Dialogue) (s : String) : Dialogue := { d with texts := s :: d.texts }

/-- One side takes the next line, if there is one. -/
def take (d : Dialogue) (side : Side) : Dialogue :=
  { d with input := d.input.tail, readers := side :: d.readers }

/-- The run is resumed. -/
def resume (d : Dialogue) (mode : DebugMode) : Dialogue :=
  { d with control := (d.control.resume mode).getD d.control, modes := mode :: d.modes }

/-- The run is interrupted. -/
def interrupt (d : Dialogue) : Dialogue :=
  { d with control := d.control.interrupt.getD d.control }

/-- The input cannot be read, which interrupts the run. -/
def fail (d : Dialogue) (message : String) : Dialogue :=
  { d with failure := some message }.interrupt

/-- The user says how to go on, in the first of the lines that is a command. -/
def command (p : TerminalPlan) : List ConsoleLine → Dialogue → Dialogue
  | [], d => (d.take .loop).interrupt
  | .garbled :: _, d => (d.take .loop).fail garbledMessage
  | .text s :: rest, d => match Command.ofText s with
    | .error word =>
      command p rest (((d.take .loop).say (p.unknownText word)).say TerminalPlan.prompt)
    | .ok command => match command.resumeMode with
      | some mode => (d.take .loop).resume mode
      | none => (d.take .loop).interrupt

/-- The user is shown a line and its scalars, and asked how to go on. -/
def pause (p : TerminalPlan) (d : Dialogue) (line : UInt32) : Dialogue :=
  let d := d.say (p.pauseText line)
  let d := (p.scalarTexts d.snapshot).foldl say d
  command p d.input (d.say TerminalPlan.prompt)

/-- A paused demo goes on, unless it has been interrupted. -/
def verdict (d : Dialogue) : Except Fault Unit :=
  if d.control.interrupted then .error .interrupted else .ok ()

/-- A read is answered by what has become of it. -/
def leave (d : Dialogue) (type : DataType) : Dialogue × Except Fault Value :=
  let (control, answer) := d.control.takeAnswer type
  ({ d with control := control.closeRead }, answer)

/-- A read is settled and answered. -/
def answer (d : Dialogue) (ticket : UInt64) (type : DataType) (v : Option Value) :
    Dialogue × Except Fault Value :=
  { d with control := (d.control.settle ticket v).getD d.control }.leave type

/-- The user is asked for a value. -/
def enter (d : Dialogue) (ticket : UInt64) (type : DataType) : Dialogue × Except Fault Value :=
  (d.take .worker).answer ticket type (Entered.ofLine type d.input.head?).answer

/-- The run ends with a result. -/
def finish (d : Dialogue) (r : RunResult) : Dialogue :=
  { d with control := d.control.finish, result := some r.timeless }

/-- The run ends with an outcome. -/
def conclude (p : TerminalPlan) (d : Dialogue) (outcome : Except Fault Unit) : Dialogue :=
  let last := d.control.position
  match RunResult.ofOutcome p.setup.translators p.setup.info last 0 outcome with
  | .ok r => d.finish r
  | .error payload => d.finish (RunResult.ofPanic payload.message last 0)

end Dialogue

/-- The dialogue with a demo that goes on from here. -/
def Body.perform (p : TerminalPlan) : Body → Dialogue → Dialogue
  | .ask call, d =>
    let d := { d with calls := d.calls + 1 }
    match call with
    | .finish outcome => d.conclude p outcome
    | .panic payload => d.conclude p (.error (.panic payload.message))
    | .think next => next.perform p d
    | .pausePoint position next =>
      let (control, decision) := d.control.reach position
      let d := { d with control }
      match decision with
      | .interrupted => (next (.error .interrupted)).perform p d
      | .pass => (next (.ok ())).perform p d
      | .pause _ =>
        let d := d.pause p position.line
        (next d.verdict).perform p d
    | .checkInterrupted next => (next d.verdict).perform p d
    | .read type next => match d.control.openRead with
      | none => (next (.error .interrupted)).perform p d
      | some control =>
        let (d, answer) := { d with control }.enter control.read.ticket type
        (next answer).perform p d
    | .write value next => (next (.ok ())).perform p (d.say value.display)
    | .clear next => (next (.ok ())).perform p (d.say clearScreen)
    | .change change next =>
      let (snapshot, panics) := change.run d.snapshot
      let d := { d with snapshot }
      if panics then d.conclude p (.error (.panic Memory.overflowMessage)) else next.perform p d
    | .query query next => (next (d.snapshot.answer query)).perform p d
    | .position next => (next d.control.position).perform p d
    | .resolve path next => (next (Path.resolve d.workingDirectory path)).perform p d

namespace TerminalPlan

/-- Before the demo is started. -/
def opening (p : TerminalPlan) (input : List ConsoleLine) : Dialogue :=
  let (scalars, vectors, matrices) := p.demo.layout
  { control := (Control.initial p.demo.info.lineCount).activate p.breakpoints
    snapshot := (Snapshot.Change.configure scalars vectors matrices).apply Snapshot.empty
    workingDirectory := p.workingDirectory
    input
    readers := []
    modes := []
    texts := []
    calls := 0
    failure := none
    result := none }

/-- The demo begins. -/
def begin (p : TerminalPlan) (d : Dialogue) : Dialogue :=
  Body.perform p (p.demo.routine p.args).body { d with snapshot := d.snapshot.reset }

/-- The dialogue with a demo from its start to its result. -/
def dialogue (p : TerminalPlan) (input : List ConsoleLine) : Dialogue :=
  let d := p.opening input
  p.begin { d with control := (d.control.start p.mode).getD d.control }

end TerminalPlan

/-! ## What dialogues have in common -/

/-- All the states to which a call can lead. -/
def Call.All {κ : Type} (P : κ → Prop) : Call κ → Prop
  | finish _ | panic _ => True
  | think next | change _ next => P next
  | pausePoint _ next | checkInterrupted next | write _ next | clear next | read _ next
  | query _ next | position next | resolve _ next => ∀ answer, P (next answer)

theorem Body.induct {P : Body → Prop} (h : ∀ call : Call Body, call.All P → P (.ask call))
    (b : Body) : P b := by
  induction b using Body.rec (motive_2 := Call.All P) with
  | ask call ih => exact h call ih
  | finish | panic => trivial
  | think _ ih | pausePoint _ _ ih | checkInterrupted _ ih | read _ _ ih | write _ _ ih
  | clear _ ih | change _ _ ih | query _ _ ih | position _ ih | resolve _ _ ih => exact ih

/-- A dialogue goes on from the other: no call and no line is taken back. -/
structure Dialogue.Extends (d d' : Dialogue) : Prop where
  calls : d.calls ≤ d'.calls
  readers : d.readers.length ≤ d'.readers.length

namespace Dialogue

variable {p : TerminalPlan} {d d' d'' : Dialogue}

theorem Extends.refl (d : Dialogue) : d.Extends d := ⟨le_rfl, le_rfl⟩

theorem Extends.trans (h : d.Extends d') (h' : d'.Extends d'') : d.Extends d'' :=
  ⟨Nat.le_trans h.calls h'.calls, Nat.le_trans h.readers h'.readers⟩

/-- What only the numbers of calls and of readers tell apart is extended alike. -/
theorem Extends.of_eq (h : d'.Extends d'') (hcalls : d.calls ≤ d'.calls)
    (hreaders : d.readers.length ≤ d'.readers.length) : d.Extends d'' :=
  (show d.Extends d' from ⟨hcalls, hreaders⟩).trans h

theorem extends_command (lines : List ConsoleLine) (d : Dialogue) :
    d.Extends (command p lines d) := by
  induction lines generalizing d with
  | nil => exact ⟨le_rfl, Nat.le_succ _⟩
  | cons line rest ih =>
    cases line with
    | garbled => exact ⟨le_rfl, Nat.le_succ _⟩
    | text s =>
      rw [command]
      cases Command.ofText s with
      | error word => exact Extends.of_eq (ih _) le_rfl (Nat.le_succ _)
      | ok command => cases command <;> exact ⟨le_rfl, Nat.le_succ _⟩

theorem foldl_say (texts : List String) (d : Dialogue) :
    texts.foldl say d = { d with texts := texts.reverse ++ d.texts } := by
  induction texts generalizing d with
  | nil => rfl
  | cons s texts ih =>
    rw [List.foldl_cons, ih, List.reverse_cons, List.append_assoc]
    rfl

theorem extends_pause (d : Dialogue) (line : UInt32) : d.Extends (d.pause p line) := by
  simp only [pause, foldl_say]
  exact Extends.of_eq (extends_command _ _) le_rfl le_rfl

theorem extends_leave (d : Dialogue) (type : DataType) : d.Extends (d.leave type).1 :=
  ⟨le_rfl, le_rfl⟩

theorem extends_answer (d : Dialogue) (ticket : UInt64) (type : DataType) (v : Option Value) :
    d.Extends (d.answer ticket type v).1 := ⟨le_rfl, le_rfl⟩

theorem extends_enter (d : Dialogue) (ticket : UInt64) (type : DataType) :
    d.Extends (d.enter ticket type).1 := ⟨le_rfl, Nat.le_succ _⟩

theorem extends_conclude (d : Dialogue) (outcome : Except Fault Unit) :
    d.Extends (d.conclude p outcome) := by
  simp only [conclude]
  split <;> exact ⟨le_rfl, le_rfl⟩

end Dialogue

theorem Body.extends_perform (p : TerminalPlan) (b : Body) (d : Dialogue) :
    d.Extends (b.perform p d) := by
  induction b using Body.induct generalizing d with
  | h call ih =>
    -- a call is counted before the dialogue goes on
    have hcall : d.calls ≤ d.calls + 1 := Nat.le_succ _
    cases call with
    | finish outcome | panic payload =>
      simp only [perform]
      exact (Dialogue.extends_conclude _ _).of_eq hcall le_rfl
    | pausePoint position next =>
      simp only [perform]
      split
      · exact (ih _ _).of_eq hcall le_rfl
      · exact (ih _ _).of_eq hcall le_rfl
      · exact ((Dialogue.extends_pause _ _).trans (ih _ _)).of_eq hcall le_rfl
    | read type next =>
      simp only [perform]
      split
      · exact (ih _ _).of_eq hcall le_rfl
      · exact ((Dialogue.extends_enter _ _ _).trans (ih _ _)).of_eq hcall le_rfl
    | think next =>
      simp only [perform]
      exact Dialogue.Extends.of_eq (ih _) hcall le_rfl
    | change _ next =>
      simp only [perform]
      split
      · exact (Dialogue.extends_conclude _ _).of_eq hcall le_rfl
      · exact Dialogue.Extends.of_eq (ih _) hcall le_rfl
    | checkInterrupted next | write _ next | clear next | query _ next | position next
    | resolve _ next =>
      simp only [perform]
      exact (ih _ _).of_eq hcall le_rfl

end RunControl
