import RunControl.Proofs.Stepping

/-!
# What a call and a turn do, case by case

Where a step leads and what it changes, said once for every call to the supervisor, every call of a
body and every place of a worker. Whatever the steps keep is read off from here, by cases.

* `Wait`, `Control.blocks`: the two conditions on which a worker waits;
* `Point.Skips`, `AfterNotice.torn?`: the end of a callback, and a panic of an observer;
* `System.Acts`, **`System.acts_act`**: what a call to the supervisor does;
* `System.Called`, **`System.called_call`**: what a call of the body does;
* `System.Takes`, **`System.takes_of_step`**: what a turn of a worker does;
* `System.Does`, **`System.does_of_step`**: what a step does.
-/

namespace RunControl

variable {κ : Type}

/-! ## Parts of a turn -/

/-- What a worker waits for. -/
inductive Wait (κ : Type)
  | resumption (hold : Hold κ)
  | answer (ask : Ask κ)

/-- The worker is about to test its condition. -/
def Wait.test : Wait κ → Point κ
  | resumption hold => .holding hold
  | answer ask => .awaiting ask

/-- The worker sleeps on its condition. -/
def Wait.sleep : Wait κ → Point κ
  | resumption hold => .held hold
  | answer ask => .awaitingAsleep ask

/-- The condition on which a worker goes on waiting. -/
def Control.blocks (c : Control) : Wait κ → Bool
  | .resumption hold => c.isHeld hold.generation
  | .answer _ => c.awaitsAnswer

/-- The first of the callbacks left at a place has been dealt with. -/
inductive Point.Skips : Point κ → Point κ → Prop
  | telling {notice : Notice} {o : ObserverId} {queue : List ObserverId} {after : AfterNotice κ} :
    Skips (.telling notice (o :: queue) after) (.telling notice queue after)
  | initializing {library : String} {left : List String} :
    Skips (.initializing (library :: left)) (.initializing left)
  | finalizing {library : String} {left : List String} {outcome : Except Fault Unit} :
    Skips (.finalizing (library :: left) outcome) (.finalizing left outcome)
  | ending {result : RunResult} {o : ObserverId} {queue : List ObserverId} :
    Skips (.ending result (o :: queue)) (.ending result queue)

/-- Where a panic of an observer leads; nowhere if another panic is on its way. -/
def AfterNotice.torn? (message : String) : AfterNotice κ → Option (Point κ)
  | libraries => some (.recovering message)
  | awaitAnswer _ => some (.closingRead (.unwind message))
  | leaveRead (.unwind _) => none
  | _ => some (.unwinding message)

namespace System

/-! ## Calls to the supervisor -/

/-- A call to the supervisor leads to the state. An answer is `late` when the read is over, and
`settled` stands for a handle that has been used before. -/
inductive Acts (s : System κ) (t : Thread) : Action → System κ → Prop
  | start {args : List String} {mode : DebugMode} {control : Control} :
    s.control.start mode = some control →
      Acts s t (.start args mode) ({ s with control }.promise t (.submit args))
  | refuseStart {args : List String} {mode : DebugMode} : s.control.start mode = none →
    Acts s t (.start args mode) s
  | resume {mode : DebugMode} {control : Control} : s.control.resume mode = some control →
    Acts s t (.resume mode) ({ s with control }.promise t .notify)
  | refuseResume {mode : DebugMode} : s.control.resume mode = none → Acts s t (.resume mode) s
  | interrupt {control : Control} : s.control.interrupt = some control →
    Acts s t .interrupt ({ s with control }.promise t .notify)
  | refuseInterrupt : s.control.interrupt = none → Acts s t .interrupt s
  | activate {lines : List UInt32} :
    Acts s t (.activate lines) { s with control := s.control.activate lines }
  | addObserver {o : ObserverId} : Acts s t (.addObserver o) { s with roster := s.roster.add o }
  | removeObserver {o : ObserverId} :
    Acts s t (.removeObserver o) { s with roster := s.roster.remove o }
  | change {change : Snapshot.Change} :
    Acts s t (.change change) { s with snapshot := change.apply s.snapshot }
  | setInput {input : ProviderId} : Acts s t (.setInput input) { s with input }
  | setOutput {output : SinkId} : Acts s t (.setOutput output) { s with output }
  | setWorkingDirectory {workingDirectory : String} :
    Acts s t (.setWorkingDirectory workingDirectory) { s with workingDirectory }
  | settle {ticket : UInt64} {answer : Option Value} {control : Control} :
    ticket ∈ s.handles → s.control.settle ticket answer = some control →
      Acts s t (.settle ticket answer)
        ({ s with control, handles := s.handles.erase ticket }.promise t .notify)
  | late {ticket : UInt64} {answer : Option Value} :
    ticket ∈ s.handles → s.control.settle ticket answer = none →
      Acts s t (.settle ticket answer) { s with handles := s.handles.erase ticket }
  | settled {ticket : UInt64} {answer : Option Value} : ticket ∉ s.handles →
    Acts s t (.settle ticket answer) s

/-- **What a call to the supervisor does.** -/
theorem acts_act (s : System κ) (t : Thread) (a : Action) : s.Acts t a (s.act t a) := by
  cases a with
  | start args mode =>
    simp only [act]
    cases h : s.control.start mode with
    | none => exact .refuseStart h
    | some control => exact .start h
  | resume mode =>
    simp only [act]
    cases h : s.control.resume mode with
    | none => exact .refuseResume h
    | some control => exact .resume h
  | interrupt =>
    simp only [act]
    cases h : s.control.interrupt with
    | none => exact .refuseInterrupt h
    | some control => exact .interrupt h
  | settle ticket answer =>
    simp only [act]
    split_ifs with hmem
    · cases h : s.control.settle ticket answer with
      | none => exact .late hmem h
      | some control => exact .settle hmem h
    · exact .settled hmem
  | activate lines => exact .activate
  | addObserver o => exact .addObserver
  | removeObserver o => exact .removeObserver
  | change change => exact .change
  | setInput input => exact .setInput
  | setOutput output => exact .setOutput
  | setWorkingDirectory directory => exact .setWorkingDirectory

/-! ## Calls of the body -/

theorem call_change (setup : Setup κ) (s : System κ) (run : RunId) (change : Snapshot.Change)
    (next : κ) : s.call setup run (.change change next) =
      { s with snapshot := change.apply s.snapshot }.goto run
        (if change.overflows s.snapshot then .unwinding Memory.overflowMessage else .body next) :=
  rfl

/-- A call of the body leads its worker to the place; `s₁` is the rest of the system then. -/
inductive Called (setup : Setup κ) (s : System κ) : Call κ → System κ → Point κ → Prop
  | finish {outcome : Except Fault Unit} :
    Called setup s (.finish outcome) s (.finalizing setup.libraries outcome)
  | panic {payload : Payload} :
    Called setup s (.panic payload) s
      (.finalizing setup.libraries (.error (.panic payload.message)))
  | think {next : κ} : Called setup s (.think next) s (.body next)
  | report {position : Position} {next : Except Fault Unit → κ} :
    (s.control.interrupted = true ∨ s.control.canPause position.line = false) →
      Called setup s (.pausePoint position next) { s with control := { s.control with position } }
        (.body (next (if s.control.interrupted then .error .interrupted else .ok ())))
  | pause {position : Position} {next : Except Fault Unit → κ} :
    s.control.interrupted = false → s.control.canPause position.line = true →
      Called setup s (.pausePoint position next) { s with control := { s.control with position } }
        (.announcing .paused (.highlight ⟨s.control.generation, position.line, next⟩))
  | checkInterrupted {next : Except Fault Unit → κ} :
    Called setup s (.checkInterrupted next) s
      (.body (next (if s.control.interrupted then .error .interrupted else .ok ())))
  | openRead {type : DataType} {next : Except Fault Value → κ} {control : Control} :
    s.control.openRead = some control →
      Called setup s (.read type next) { s with control }
        (.requesting ⟨control.read.ticket, type, next⟩)
  | refuseRead {type : DataType} {next : Except Fault Value → κ} :
    s.control.openRead = none →
      Called setup s (.read type next) s (.body (next (.error .interrupted)))
  | write {value : Value} {next : Except Fault Unit → κ} :
    Called setup s (.write value next) s (.writing value s.output next)
  | clear {next : Except Fault Unit → κ} : Called setup s (.clear next) s (.clearing s.output next)
  | change {change : Snapshot.Change} {next : κ} : change.overflows s.snapshot = false →
    Called setup s (.change change next) { s with snapshot := change.apply s.snapshot }
      (.body next)
  | overflow {change : Snapshot.Change} {next : κ} : change.overflows s.snapshot = true →
    Called setup s (.change change next) { s with snapshot := change.apply s.snapshot }
      (.unwinding Memory.overflowMessage)
  | query {query : Snapshot.Query} {next : Snapshot.Answer → κ} :
    Called setup s (.query query next) s (.body (next (s.snapshot.answer query)))
  | position {next : Position → κ} :
    Called setup s (.position next) s (.body (next s.control.position))
  | resolve {path : String} {next : String → κ} :
    Called setup s (.resolve path next) s (.body (next (Path.resolve s.workingDirectory path)))

/-- **What a call of the body does.** -/
theorem called_call (setup : Setup κ) (s : System κ) (run : RunId) (c : Call κ) :
    ∃ s₁ q, s.call setup run c = s₁.goto run q ∧ s.Called setup c s₁ q := by
  cases c with
  | finish outcome => exact ⟨_, _, rfl, .finish⟩
  | panic payload => exact ⟨_, _, rfl, .panic⟩
  | think next => exact ⟨_, _, rfl, .think⟩
  | pausePoint position next =>
    cases hi : s.control.interrupted with
    | true =>
      refine ⟨_, _, ?_, .report (.inl hi)⟩
      simp [call, Control.reach, hi]
    | false =>
      cases hc : s.control.canPause position.line with
      | true =>
        refine ⟨_, _, ?_, .pause hi hc⟩
        simp [call, Control.reach, hi, hc]
      | false =>
        refine ⟨_, _, ?_, .report (.inr hc)⟩
        simp [call, Control.reach, hi, hc]
  | checkInterrupted next => exact ⟨_, _, rfl, .checkInterrupted⟩
  | read type next =>
    cases ho : s.control.openRead with
    | none => exact ⟨_, _, by simp only [call, ho], .refuseRead ho⟩
    | some control => exact ⟨_, _, by simp only [call, ho], .openRead ho⟩
  | write value next => exact ⟨_, _, rfl, .write⟩
  | clear next => exact ⟨_, _, rfl, .clear⟩
  | change change next =>
    cases ho : change.overflows s.snapshot with
    | false => exact ⟨_, _, by rw [call_change, ho]; rfl, .change ho⟩
    | true => exact ⟨_, _, by rw [call_change, ho]; rfl, .overflow ho⟩
  | query query next => exact ⟨_, _, rfl, .query⟩
  | position next => exact ⟨_, _, rfl, .position⟩
  | resolve path next => exact ⟨_, _, rfl, .resolve⟩

/-! ## Turns -/

/-- A turn of the worker of a run, which is started with `args`, leads it from the one place to the
other; `s₁` is the rest of the system then. In `collided` another panic is on its way, and the
process ends with the worker where it is. -/
inductive Takes (setup : Setup κ) (s : System κ) (run : RunId) (args : List String) :
    Label κ → Point κ → System κ → Point κ → Prop
  -- what a worker does on its own
  | begin {elapsed : Nat} :
    Takes setup s run args (.advance run elapsed) .queued s (.announcing .started .libraries)
  | tell {elapsed : Nat} {notice : Notice} {after : AfterNotice κ} :
    Takes setup s run args (.advance run elapsed) (.announcing notice after) s
      (.telling notice s.roster.members after)
  | told {elapsed : Nat} {notice : Notice} {after : AfterNotice κ} :
    Takes setup s run args (.advance run elapsed) (.telling notice [] after) s (after.point setup)
  | enter {elapsed : Nat} :
    Takes setup s run args (.advance run elapsed) (.initializing [])
      { s with snapshot := s.snapshot.reset, executions := s.executions + 1 }
      (.body (setup.entry s.executions args))
  | park {elapsed : Nat} {w : Wait κ} : s.control.blocks w = true →
    Takes setup s run args (.advance run elapsed) w.test s w.sleep
  | release {elapsed : Nat} {hold : Hold κ} : s.control.isHeld hold.generation = false →
    Takes setup s run args (.advance run elapsed) (.holding hold) s
      (.announcing .resumed
        (.proceed (hold.next (if s.control.interrupted then .error .interrupted else .ok ()))))
  | request {elapsed : Nat} {ask : Ask κ} :
    Takes setup s run args (.advance run elapsed) (.requesting ask)
      { s with handles := s.handles ++ [ask.ticket] } (.asking ask s.input)
  | wait {elapsed : Nat} {ask : Ask κ} : s.control.awaitsAnswer = true →
    Takes setup s run args (.advance run elapsed) (.checking ask) s
      (.announcing .paused (.awaitAnswer ask))
  | take {elapsed : Nat} {q : Point κ} {ask : Ask κ} :
    q = .checking ask ∨ q = .awaiting ask → s.control.awaitsAnswer = false →
      Takes setup s run args (.advance run elapsed) q
        { s with control := (s.control.takeAnswer ask.type).1 }
        (.closingRead (.answer (ask.next (s.control.takeAnswer ask.type).2)))
  | close {elapsed : Nat} {exit : ReadExit κ} :
    Takes setup s run args (.advance run elapsed) (.closingRead exit)
      { s with control := s.control.closeRead } (.announcing .resumed (.leaveRead exit))
  | unwound {elapsed : Nat} {message : String} :
    Takes setup s run args (.advance run elapsed) (.unwinding message) s
      (.finalizing setup.libraries (.error (.panic message)))
  | finalized {elapsed : Nat} {outcome : Except Fault Unit} :
    Takes setup s run args (.advance run elapsed) (.finalizing [] outcome) s
      (.classifying outcome)
  | classified {elapsed : Nat} {outcome : Except Fault Unit} {result : RunResult} :
    RunResult.ofOutcome setup.translators setup.info s.control.position elapsed outcome =
      .ok result →
      Takes setup s run args (.advance run elapsed) (.classifying outcome) s (.draining result)
  | misjudged {elapsed : Nat} {outcome : Except Fault Unit} {payload : Payload} :
    RunResult.ofOutcome setup.translators setup.info s.control.position elapsed outcome =
      .error payload →
      Takes setup s run args (.advance run elapsed) (.classifying outcome) s
        (.recovering payload.message)
  | recovered {elapsed : Nat} {message : String} :
    Takes setup s run args (.advance run elapsed) (.recovering message) s
      (.draining (RunResult.ofPanic message s.control.position elapsed))
  | drained {elapsed : Nat} {result : RunResult} :
    Takes setup s run args (.advance run elapsed) (.draining result)
      { s with roster := Roster.empty } (.finishing result s.roster.members)
  | finished {elapsed : Nat} {result : RunResult} {watchers : List ObserverId} :
    Takes setup s run args (.advance run elapsed) (.finishing result watchers)
      { s with control := s.control.finish } (.ending result watchers)
  | retired {elapsed : Nat} {result : RunResult} :
    Takes setup s run args (.advance run elapsed) (.ending result []) s .done
  -- what the body asks for
  | called {c : Call κ} {state : κ} {s₁ : System κ} {q : Point κ} : s.Called setup c s₁ q →
    Takes setup s run args (.call run c) (.body state) s₁ q
  -- how a callback ends
  | returned {q q' : Point κ} : q.Skips q' → Takes setup s run args (.returned run) q s q'
  | provided {ask : Ask κ} {provider : ProviderId} :
    Takes setup s run args (.returned run) (.asking ask provider) s (.checking ask)
  | written {value : Value} {sink : SinkId} {next : Except Fault Unit → κ} :
    Takes setup s run args (.returned run) (.writing value sink next) s (.body (next (.ok ())))
  | cleared {sink : SinkId} {next : Except Fault Unit → κ} :
    Takes setup s run args (.returned run) (.clearing sink next) s (.body (next (.ok ())))
  | refused {error : LibraryError} {library : String} {left : List String} :
    Takes setup s run args (.libraryFailed run error) (.initializing (library :: left)) s
      (.finalizing setup.libraries (.error (.library error)))
  | lapsed {error : LibraryError} {library : String} {left : List String}
    {outcome : Except Fault Unit} :
    Takes setup s run args (.libraryFailed run error) (.finalizing (library :: left) outcome) s
      (.finalizing left outcome)
  | unwritten {error : OutputError} {value : Value} {sink : SinkId}
    {next : Except Fault Unit → κ} :
    Takes setup s run args (.sinkFailed run error) (.writing value sink next) s
      (.body (next (.error (Fault.ofWriteError error))))
  | uncleared {error : OutputError} {sink : SinkId} {next : Except Fault Unit → κ} :
    Takes setup s run args (.sinkFailed run error) (.clearing sink next) s
      (.body (next (.error Fault.ofClearError)))
  -- where a panic leads
  | tornNotice {payload : Payload} {notice : Notice} {o : ObserverId} {queue : List ObserverId}
    {after : AfterNotice κ} {q : Point κ} : after.torn? payload.message = some q →
      Takes setup s run args (.panicked run payload) (.telling notice (o :: queue) after) s q
  | collided {payload : Payload} {notice : Notice} {o : ObserverId} {queue : List ObserverId}
    {message : String} {q : Point κ} :
      q = .telling notice (o :: queue) (.leaveRead (.unwind message)) →
      Takes setup s run args (.panicked run payload) q { s with aborted := true } q
  | tornStart {payload : Payload} {library : String} {left : List String} :
    Takes setup s run args (.panicked run payload) (.initializing (library :: left)) s
      (.finalizing setup.libraries
        (.error (.library ⟨library, "panicked during initialization: " ++ payload.message⟩)))
  | tornRequest {payload : Payload} {ask : Ask κ} {provider : ProviderId} :
    Takes setup s run args (.panicked run payload) (.asking ask provider) s
      (.closingRead (.unwind payload.message))
  | tornWrite {payload : Payload} {value : Value} {sink : SinkId}
    {next : Except Fault Unit → κ} :
    Takes setup s run args (.panicked run payload) (.writing value sink next) s
      (.unwinding payload.message)
  | tornClear {payload : Payload} {sink : SinkId} {next : Except Fault Unit → κ} :
    Takes setup s run args (.panicked run payload) (.clearing sink next) s
      (.unwinding payload.message)
  | tornStop {payload : Payload} {library : String} {left : List String}
    {outcome : Except Fault Unit} :
    Takes setup s run args (.panicked run payload) (.finalizing (library :: left) outcome) s
      (.finalizing left outcome)
  | tornEnd {payload : Payload} {result : RunResult} {o : ObserverId}
    {queue : List ObserverId} :
    Takes setup s run args (.panicked run payload) (.ending result (o :: queue)) s
      (.ending result queue)
  | caught {state : κ} {message : String} :
    Takes setup s run args (.caught run state) (.unwinding message) s (.body state)

variable {setup : Setup κ} {s s' s₁ : System κ} {run : RunId} {args : List String} {l : Label κ}
  {q q' : Point κ} {c : Call κ}

theorem Called.tasks (h : s.Called setup c s₁ q) : s₁.tasks = s.tasks := by cases h <;> rfl

theorem Called.inFlight (h : s.Called setup c s₁ q) : s₁.inFlight = s.inFlight := by
  cases h <;> rfl

theorem Called.point? (h : s.Called setup c s₁ q) (run : RunId) :
    s₁.point? run = s.point? run := by
  rw [System.point?, System.point?, h.tasks]

theorem Takes.tasks (h : s.Takes setup run args l q s₁ q') : s₁.tasks = s.tasks := by
  cases h with
  | called hcalled => exact hcalled.tasks
  | _ => rfl

theorem Takes.inFlight (h : s.Takes setup run args l q s₁ q') : s₁.inFlight = s.inFlight := by
  cases h with
  | called hcalled => exact hcalled.inFlight
  | _ => rfl

theorem Takes.point? (h : s.Takes setup run args l q s₁ q') (r : RunId) :
    s₁.point? r = s.point? r := by
  rw [System.point?, System.point?, h.tasks]

theorem point?_call (setup : Setup κ) {state : κ} (hq : s.point? run = some (.body state))
    (c : Call κ) :
    ∃ s₁ q', (s.call setup run c).point? run = some q' ∧ s.call setup run c = s₁.goto run q' ∧
      s.Called setup c s₁ q' := by
  obtain ⟨s₁, q', he, hcalled⟩ := called_call setup s run c
  exact ⟨s₁, q', he ▸ point?_goto ((hcalled.point? run).trans hq), he, hcalled⟩

theorem takes_advance {elapsed : Nat} (h : s.advance setup run args elapsed q = some s') :
    ∃ s₁ q', s' = s₁.goto run q' ∧ s.Takes setup run args (.advance run elapsed) q s₁ q' := by
  -- by the place of the worker; only the tests and the judgement have two ways to go on
  cases q with
  | queued => exact ⟨_, _, (Option.some.inj h).symm, .begin⟩
  | announcing notice after => exact ⟨_, _, (Option.some.inj h).symm, .tell⟩
  | telling notice queue after =>
    cases queue with
    | nil => exact ⟨_, _, (Option.some.inj h).symm, .told⟩
    | cons o queue => cases h
  | initializing left =>
    cases left with
    | nil => exact ⟨_, _, (Option.some.inj h).symm, .enter⟩
    | cons library left => cases h
  | holding hold =>
    cases hb : s.control.isHeld hold.generation with
    | true =>
      simp only [advance, hb, if_true, Option.some.injEq] at h
      exact ⟨_, _, h.symm, .park (w := .resumption hold) hb⟩
    | false =>
      simp only [advance, hb, Bool.false_eq_true, if_false, Option.some.injEq] at h
      exact ⟨_, _, h.symm, .release hb⟩
  | requesting ask => exact ⟨_, _, (Option.some.inj h).symm, .request⟩
  | checking ask =>
    cases hb : s.control.awaitsAnswer with
    | true =>
      simp only [advance, hb, if_true, Option.some.injEq] at h
      exact ⟨_, _, h.symm, .wait hb⟩
    | false =>
      simp only [advance, hb, Bool.false_eq_true, if_false, Option.some.injEq] at h
      exact ⟨_, _, h.symm, .take (.inl rfl) hb⟩
  | awaiting ask =>
    cases hb : s.control.awaitsAnswer with
    | true =>
      simp only [advance, hb, if_true, Option.some.injEq] at h
      exact ⟨_, _, h.symm, .park (w := .answer ask) hb⟩
    | false =>
      simp only [advance, hb, Bool.false_eq_true, if_false, Option.some.injEq] at h
      exact ⟨_, _, h.symm, .take (.inr rfl) hb⟩
  | closingRead exit => exact ⟨_, _, (Option.some.inj h).symm, .close⟩
  | unwinding message => exact ⟨_, _, (Option.some.inj h).symm, .unwound⟩
  | finalizing left outcome =>
    cases left with
    | nil => exact ⟨_, _, (Option.some.inj h).symm, .finalized⟩
    | cons library left => cases h
  | classifying outcome =>
    simp only [advance] at h
    split at h
    case h_1 result hresult => exact ⟨_, _, (Option.some.inj h).symm, .classified hresult⟩
    case h_2 payload hpayload => exact ⟨_, _, (Option.some.inj h).symm, .misjudged hpayload⟩
  | recovering message => exact ⟨_, _, (Option.some.inj h).symm, .recovered⟩
  | draining result => exact ⟨_, _, (Option.some.inj h).symm, .drained⟩
  | finishing result watchers => exact ⟨_, _, (Option.some.inj h).symm, .finished⟩
  | ending result queue =>
    cases queue with
    | nil => exact ⟨_, _, (Option.some.inj h).symm, .retired⟩
    | cons o queue => cases h
  | body state | held hold | asking ask provider | awaitingAsleep ask | writing value sink next
  | clearing sink next | done => cases h

theorem takes_returned (h : s.returned run q = some s') :
    ∃ s₁ q', s' = s₁.goto run q' ∧ s.Takes setup run args (.returned run) q s₁ q' := by
  unfold returned at h
  split at h
  case h_8 => cases h
  all_goals obtain rfl := Option.some.inj h
  case h_1 => exact ⟨_, _, rfl, .returned .telling⟩
  case h_2 => exact ⟨_, _, rfl, .returned .initializing⟩
  case h_3 => exact ⟨_, _, rfl, .provided⟩
  case h_4 => exact ⟨_, _, rfl, .written⟩
  case h_5 => exact ⟨_, _, rfl, .cleared⟩
  case h_6 => exact ⟨_, _, rfl, .returned .finalizing⟩
  case h_7 => exact ⟨_, _, rfl, .returned .ending⟩

theorem takes_libraryFailed {error : LibraryError}
    (h : s.libraryFailed setup run error q = some s') :
    ∃ s₁ q', s' = s₁.goto run q' ∧ s.Takes setup run args (.libraryFailed run error) q s₁ q' := by
  unfold libraryFailed at h
  split at h
  · exact ⟨_, _, (Option.some.inj h).symm, .refused⟩
  · exact ⟨_, _, (Option.some.inj h).symm, .lapsed⟩
  · cases h

theorem takes_sinkFailed {error : OutputError} (h : s.sinkFailed run error q = some s') :
    ∃ s₁ q', s' = s₁.goto run q' ∧ s.Takes setup run args (.sinkFailed run error) q s₁ q' := by
  unfold sinkFailed at h
  split at h
  · exact ⟨_, _, (Option.some.inj h).symm, .unwritten⟩
  · exact ⟨_, _, (Option.some.inj h).symm, .uncleared⟩
  · cases h

/-- A panic of an observer leads on, or it meets another one, which ends the process. -/
theorem takes_panicked_telling {payload : Payload} {notice : Notice} {o : ObserverId}
    {queue : List ObserverId} {after : AfterNotice κ}
    (hstay : s.goto run (.telling notice (o :: queue) after) = s)
    (h : s.panicked setup run payload (.telling notice (o :: queue) after) = some s') :
    ∃ s₁ q', s' = s₁.goto run q' ∧
      s.Takes setup run args (.panicked run payload) (.telling notice (o :: queue) after)
        s₁ q' := by
  cases after with
  | leaveRead exit =>
    cases exit with
    | answer state => exact ⟨_, _, (Option.some.inj h).symm, .tornNotice rfl⟩
    | unwind message =>
      -- the worker stays where it is, so the step is also one that sends it there
      refine ⟨{ s with aborted := true }, _, ?_, .collided rfl⟩
      rw [← Option.some.inj h]
      exact (congrArg (fun s : System κ => { s with aborted := true }) hstay).symm
  | libraries | highlight hold | hold hold | proceed state | awaitAnswer ask =>
    exact ⟨_, _, (Option.some.inj h).symm, .tornNotice rfl⟩

theorem takes_panicked {payload : Payload} (hstay : s.goto run q = s)
    (h : s.panicked setup run payload q = some s') :
    ∃ s₁ q', s' = s₁.goto run q' ∧ s.Takes setup run args (.panicked run payload) q s₁ q' := by
  cases q with
  | telling notice queue after =>
    cases queue with
    | nil => cases h
    | cons o queue => exact takes_panicked_telling hstay h
  | initializing left =>
    cases left with
    | nil => cases h
    | cons library left => exact ⟨_, _, (Option.some.inj h).symm, .tornStart⟩
  | finalizing left outcome =>
    cases left with
    | nil => cases h
    | cons library left => exact ⟨_, _, (Option.some.inj h).symm, .tornStop⟩
  | ending result queue =>
    cases queue with
    | nil => cases h
    | cons o queue => exact ⟨_, _, (Option.some.inj h).symm, .tornEnd⟩
  | asking ask provider => exact ⟨_, _, (Option.some.inj h).symm, .tornRequest⟩
  | writing value sink next => exact ⟨_, _, (Option.some.inj h).symm, .tornWrite⟩
  | clearing sink next => exact ⟨_, _, (Option.some.inj h).symm, .tornClear⟩
  | _ => cases h

theorem takes_caught {state : κ} (h : s.caught run state q = some s') :
    ∃ s₁ q', s' = s₁.goto run q' ∧ s.Takes setup run args (.caught run state) q s₁ q' := by
  cases q with
  | unwinding message => exact ⟨_, _, (Option.some.inj h).symm, .caught⟩
  | _ => cases h

theorem takes_of_turn {task : Task κ} (hl : l.worker? = some run) (ht : s.tasks[run]? = some task)
    (h : s.turn setup task l = some s') :
    ∃ s₁ q', s' = s₁.goto run q' ∧ s.Takes setup run task.args l task.point s₁ q' := by
  cases l with
  | act t a | complete t | wake r => cases hl
  | advance r elapsed =>
    obtain rfl := Option.some.inj hl
    exact takes_advance h
  | call r c =>
    obtain rfl := Option.some.inj hl
    obtain ⟨s₁, q', he, hcalled⟩ := called_call setup s r c
    obtain ⟨args, q⟩ := task
    cases q with
    | body state =>
      obtain rfl := Option.some.inj h
      exact ⟨s₁, q', he, .called hcalled⟩
    | _ => cases h
  | returned r =>
    obtain rfl := Option.some.inj hl
    exact takes_returned h
  | libraryFailed r error =>
    obtain rfl := Option.some.inj hl
    exact takes_libraryFailed h
  | sinkFailed r error =>
    obtain rfl := Option.some.inj hl
    exact takes_sinkFailed h
  | panicked r payload =>
    obtain rfl := Option.some.inj hl
    exact takes_panicked (goto_point ht) h
  | caught r state =>
    obtain rfl := Option.some.inj hl
    exact takes_caught h

/-- **What a turn does.** The worker is free, and goes on from where it is. -/
theorem takes_of_step (hl : l.worker? = some run) (h : s.step setup l = some s') :
    ∃ task s₁ q, s.freeTask? run = some task ∧ s' = s₁.goto run q ∧
      s.Takes setup run task.args l task.point s₁ q := by
  rw [step_turn hl (aborted_of_step h)] at h
  obtain ⟨task, htask, hturn⟩ := Option.bind_eq_some_iff.1 h
  obtain ⟨s₁, q, he, htakes⟩ := takes_of_turn hl (freeTask?_eq_some_iff.1 htask).2 hturn
  exact ⟨task, s₁, q, htask, he, htakes⟩

theorem takes_of_task {task : Task κ} (hl : l.worker? = some run)
    (ht : s.tasks[run]? = some task) (h : s.step setup l = some s') :
    ∃ s₁ q, s' = s₁.goto run q ∧ s'.point? run = some q ∧
      s.Takes setup run task.args l task.point s₁ q := by
  obtain ⟨task', s₁, q, hfree, he, htakes⟩ := takes_of_step hl h
  obtain rfl := Option.some.inj (ht.symm.trans (freeTask?_eq_some_iff.1 hfree).2)
  have hq : s.point? run = some task.point := point?_eq_some_iff.2 ⟨task, ht, rfl⟩
  exact ⟨s₁, q, he, he ▸ point?_goto ((htakes.point? run).trans hq), htakes⟩

theorem takes_of_point (hl : l.worker? = some run) (hq : s.point? run = some q)
    (h : s.step setup l = some s') :
    ∃ args s₁ q', s' = s₁.goto run q' ∧ s'.point? run = some q' ∧
      s.Takes setup run args l q s₁ q' := by
  obtain ⟨task, ht, rfl⟩ := point?_eq_some_iff.1 hq
  exact ⟨task.args, takes_of_task hl ht h⟩

/-! ## Steps -/

/-- A step leads to the state. -/
inductive Does (setup : Setup κ) (s : System κ) : Label κ → System κ → Prop
  | act {t : Thread} {a : Action} {s' : System κ} : s.mayAct t = true → s.Acts t a s' →
    Does setup s (.act t a) s'
  | complete {t : Thread} {owed : Pending} : (t, owed) ∈ s.inFlight →
    Does setup s (.complete t)
      ({ s with inFlight := s.inFlight.filter fun p => p.1 ≠ t }.finishCall owed)
  | wake {run : RunId} {task : Task κ} : s.tasks[run]? = some task →
    task.point.isAsleep = true → Does setup s (.wake run) (s.goto run task.point.wake)
  | turn {run : RunId} {l : Label κ} {task : Task κ} {s₁ : System κ} {q : Point κ} :
    l.worker? = some run → s.freeTask? run = some task →
      s.Takes setup run task.args l task.point s₁ q → Does setup s l (s₁.goto run q)

/-- **What a step does.** -/
theorem does_of_step (h : s.step setup l = some s') : s.Does setup l s' := by
  cases hl : l.worker? with
  | some run =>
    obtain ⟨task, s₁, q, hfree, rfl, htakes⟩ := takes_of_step hl h
    exact .turn hl hfree htakes
  | none =>
    cases l with
    | act t a =>
      obtain ⟨hmay, rfl⟩ := act_of_step h
      exact .act hmay (s.acts_act t a)
    | complete t =>
      obtain ⟨owed, hmem, rfl⟩ := complete_of_step h
      exact .complete hmem
    | wake run =>
      obtain ⟨task, htask, hasleep, rfl⟩ := wake_of_step h
      exact .wake htask hasleep
    | _ => cases hl

end System

end RunControl
