import Mathlib.Logic.Relation
import RunControl.Proofs.Shift

/-!
# Runs without a debugger

What a run would do if nobody ever paused, resumed or watched it. Libraries, body, provider and sink
make up the program. A `Conduct` says what each of them does next, given everything that they have
done so far, so a run is one sequence of states: `Plain.next` is a function.

* `Place`, `Decision`, `Event`: where code of the program runs, and what it decides there;
* `Response`: what the body is answered;
* `Conduct`: a program that decides as a function of the past;
* `Plain`, `Plain.next`: the run without a debugger, event by event;
* **`Plain.Reaches.eq_of_ended`**: all such runs that end, end in the same state.
-/

namespace RunControl

variable {κ : Type}

/-- Where a run is, but for pauses, notifications and waits. It has `ended` when the result is
known. -/
inductive Place (κ : Type)
  | initializing (left : List String)
  | body (state : κ)
  | asking (type : DataType) (next : Except Fault Value → κ) (provider : ProviderId)
  | writing (value : Value) (sink : SinkId) (next : Except Fault Unit → κ)
  | clearing (sink : SinkId) (next : Except Fault Unit → κ)
  | unwinding (message : String)
  | finalizing (left : List String) (outcome : Except Fault Unit)
  | ended (termination : Termination) (error : Option Diagnostic)

/-- What code of the program does next. The body catches a panic that has reached it or lets it
through; `act` is a call to the supervisor that changes the snapshot or a setting. -/
inductive Decision (κ : Type)
  | call (call : Call κ)
  | returned
  | libraryFailed (error : LibraryError)
  | sinkFailed (error : OutputError)
  | panicked (payload : Payload)
  | caught (state : κ)
  | uncaught
  | act (action : Action)

/-- Code of the program has decided. -/
structure Event (κ : Type) where
  place : Place κ
  decision : Decision κ

/-- What the body is answered when it calls. -/
inductive Response
  | done (answer : Except Fault Unit)
  | value (answer : Except Fault Value)
  | inspected (answer : Snapshot.Answer)
  | position (position : Position)
  | path (path : String)

/-- The body reads. -/
def Event.isRead (e : Event κ) : Bool :=
  match e.place, e.decision with
  | .body _, .call (.read _ _) => true
  | _, _ => false

/-- What has happened up to the latest read, the latest first. -/
def asked (past : List (Event κ)) : List (Event κ) := past.dropWhile fun e => !e.isRead

/-- How the code of a program behaves, as a function of what it has done so far; `reply` is how the
latest read is settled, by a value or by a refusal. -/
structure Conduct (κ : Type) where
  decide : List (Event κ) → Place κ → Decision κ
  reply : List (Event κ) → Option Value

/-- The answer to the latest read. -/
def Conduct.answer (conduct : Conduct κ) (past : List (Event κ)) (type : DataType) :
    Except Fault Value :=
  match (conduct.reply (asked past)).bind fun v => v.coerce type with
  | some w => .ok w
  | none => .error (Fault.invalidInput type)

/-- The same places, and what the conduct decides there. -/
def Conduct.replay (conduct : Conduct κ) : List (Event κ) → List (Event κ)
  | [] => []
  | e :: before => ⟨e.place, conduct.decide before e.place⟩ :: conduct.replay before

/-- The call changes the snapshot or a setting. -/
def Action.isMaterial : Action → Bool
  | .change _ | .setInput _ | .setOutput _ | .setWorkingDirectory _ => true
  | _ => false

/-- The result is known. -/
def Place.ofResult (r : RunResult) : Place κ := .ended r.termination r.error

/-- A run without a debugger. What the body has been answered and what code of the program has
decided is listed with the latest first. -/
structure Plain (κ : Type) where
  place : Place κ
  position : Position
  snapshot : Snapshot
  input : ProviderId
  output : SinkId
  workingDirectory : String
  responses : List Response
  past : List (Event κ)

namespace Plain

variable (setup : Setup κ) (conduct : Conduct κ) (entry : κ)

def goto (p : Plain κ) (place : Place κ) : Plain κ := { p with place }

def respond (p : Plain κ) (response : Response) (state : κ) : Plain κ :=
  { p with place := .body state, responses := response :: p.responses }

/-- How a run ends whose body has stopped. -/
def classify (p : Plain κ) (outcome : Except Fault Unit) : Place κ :=
  match RunResult.ofOutcome setup.translators setup.info p.position 0 outcome with
  | .ok result => .ofResult result
  | .error payload => .ofResult (RunResult.ofPanic payload.message p.position 0)

/-- What the body asks for. -/
def call (p : Plain κ) : Call κ → Plain κ
  | .finish outcome => p.goto (.finalizing setup.libraries outcome)
  | .panic payload => p.goto (.finalizing setup.libraries (.error (.panic payload.message)))
  | .think next => p.goto (.body next)
  | .pausePoint position next => { p with position }.respond (.done (.ok ())) (next (.ok ()))
  | .checkInterrupted next => p.respond (.done (.ok ())) (next (.ok ()))
  | .read type next => p.goto (.asking type next p.input)
  | .write value next => p.goto (.writing value p.output next)
  | .clear next => p.goto (.clearing p.output next)
  | .change change next =>
    let (snapshot, overflows) := change.run p.snapshot
    { p with snapshot }.goto
      (if overflows then .unwinding Memory.overflowMessage else .body next)
  | .query query next =>
    p.respond (.inspected (p.snapshot.answer query)) (next (p.snapshot.answer query))
  | .position next => p.respond (.position p.position) (next p.position)
  | .resolve path next =>
    p.respond (.path (Path.resolve p.workingDirectory path))
      (next (Path.resolve p.workingDirectory path))

theorem call_change_of_room {p : Plain κ} {change : Snapshot.Change} {next : κ}
    (h : change.overflows p.snapshot = false) : p.call setup (.change change next) =
      { p with snapshot := change.apply p.snapshot }.goto (.body next) :=
  congrArg (goto _) (if_neg (ne_true_of_eq_false h))

theorem call_change_of_overflow {p : Plain κ} {change : Snapshot.Change} {next : κ}
    (h : change.overflows p.snapshot = true) : p.call setup (.change change next) =
      { p with snapshot := change.apply p.snapshot }.goto (.unwinding Memory.overflowMessage) :=
  congrArg (goto _) (if_pos h)

/-- A call to the supervisor that changes the snapshot or a setting. -/
def act (p : Plain κ) : Action → Plain κ
  | .change change => { p with snapshot := change.apply p.snapshot }
  | .setInput input => { p with input }
  | .setOutput output => { p with output }
  | .setWorkingDirectory workingDirectory => { p with workingDirectory }
  | _ => p

/-- What a decision leads to. -/
def follow (p : Plain κ) : Place κ → Decision κ → Option (Plain κ)
  | .initializing (_ :: left), .returned => some (p.goto (.initializing left))
  | .initializing (_ :: _), .libraryFailed error =>
    some (p.goto (.finalizing setup.libraries (.error (.library error))))
  | .initializing (library :: _), .panicked payload =>
    let error : LibraryError :=
      ⟨library, "panicked during initialization: " ++ payload.message⟩
    some (p.goto (.finalizing setup.libraries (.error (.library error))))
  | .body _, .call c => some (p.call setup c)
  | .asking type next _, .returned =>
    some (p.respond (.value (conduct.answer p.past type)) (next (conduct.answer p.past type)))
  | .asking _ _ _, .panicked payload => some (p.goto (.unwinding payload.message))
  | .writing _ _ next, .returned => some (p.respond (.done (.ok ())) (next (.ok ())))
  | .writing _ _ next, .sinkFailed error =>
    let fault := Fault.ofWriteError error
    some (p.respond (.done (.error fault)) (next (.error fault)))
  | .writing _ _ _, .panicked payload => some (p.goto (.unwinding payload.message))
  | .clearing _ next, .returned => some (p.respond (.done (.ok ())) (next (.ok ())))
  | .clearing _ next, .sinkFailed _ =>
    some (p.respond (.done (.error Fault.ofClearError)) (next (.error Fault.ofClearError)))
  | .clearing _ _, .panicked payload => some (p.goto (.unwinding payload.message))
  | .unwinding _, .caught state => some (p.goto (.body state))
  | .unwinding message, .uncaught =>
    some (p.goto (.finalizing setup.libraries (.error (.panic message))))
  | .finalizing (_ :: left) outcome, .returned => some (p.goto (.finalizing left outcome))
  | .finalizing (_ :: left) outcome, .libraryFailed _ => some (p.goto (.finalizing left outcome))
  | .finalizing (_ :: left) outcome, .panicked _ => some (p.goto (.finalizing left outcome))
  | _, .act a => some (p.act a)
  | _, _ => none

/-- Ask the code of the program what it does. -/
def decide (p : Plain κ) : Option (Plain κ) :=
  let decision := conduct.decide p.past p.place
  { p with past := ⟨p.place, decision⟩ :: p.past }.follow setup conduct p.place decision

/-- What the run does next; the body begins in the state `entry`. -/
def next (p : Plain κ) : Option (Plain κ) :=
  match p.place with
  | .initializing [] => some ({ p with snapshot := p.snapshot.reset }.goto (.body entry))
  | .finalizing [] outcome => some (p.goto (p.classify setup outcome))
  | .ended _ _ => none
  | _ => p.decide setup conduct

/-- The run comes from one state to the other. -/
def Reaches : Plain κ → Plain κ → Prop :=
  Relation.ReflTransGen fun p q => p.next setup conduct entry = some q

variable {setup conduct entry} {p q r : Plain κ}

theorem Reaches.eq_of_next (h : Reaches setup conduct entry p q)
    (hp : p.next setup conduct entry = none) : q = p := by
  obtain rfl | ⟨p', hp', -⟩ := Relation.ReflTransGen.cases_head h
  · rfl
  · rw [hp] at hp'
    cases hp'

theorem next_of_ended {termination : Termination} {error : Option Diagnostic}
    (h : p.place = .ended termination error) : p.next setup conduct entry = none := by
  simp [next, h]

/-- **Runs from one state that end do so in one state.** -/
theorem Reaches.eq_of_ended {termination termination' : Termination}
    {error error' : Option Diagnostic} (hq : Reaches setup conduct entry p q)
    (hr : Reaches setup conduct entry p r) (hq' : q.place = .ended termination error)
    (hr' : r.place = .ended termination' error') : q = r := by
  have hunique : Relator.RightUnique fun p q : Plain κ => p.next setup conduct entry = some q :=
    fun p q r hq hr => Option.some.inj (hq.symm.trans hr)
  obtain h | h := Relation.ReflTransGen.total_of_right_unique hunique hq hr
  · exact (Reaches.eq_of_next h (next_of_ended hq')).symm
  · exact Reaches.eq_of_next h (next_of_ended hr')

end Plain

end RunControl
