import RunControl.Proofs.Control
import RunControl.Proofs.Inversion

/-!
# What one step can do

Every step of a system is of one of five kinds: a call to the supervisor, either half of its second
step, a sleeper that wakes up for no reason, and a turn of a worker. What a turn does to the control
state depends on where the worker is.

* `Phase`, `Point.wait?`, `Point.parked?`: how far a worker is, and what it waits for;
* `Acted`, `Turn`: what a call and a turn do to the control state and to the handles;
* **`System.stepped_of_step`**: a step is one of `Stepped`.
-/

namespace RunControl

variable {κ : Type}

/-! ## Where a worker is -/

/-- How far a worker is. It is `busy` outside the body and in a callback of a write or a clear,
`pausing` from the decision to pause until the pause is left, `reading` until the answer is taken
and `closing` until the read is closed, then `returning` to the body. It is alive up to `finishing`.
-/
inductive Phase (κ : Type)
  | busy
  | body (state : κ)
  | pausing (hold : Hold κ)
  | reading (ask : Ask κ)
  | closing (exit : ReadExit κ)
  | returning (state : κ)
  | finishing (result : RunResult)
  | ending (result : RunResult)
  | done

namespace Phase

/-- A read is open. -/
def isReading : Phase κ → Bool
  | reading _ | closing _ => true
  | _ => false

/-- The run is no longer alive. -/
def isOver : Phase κ → Bool
  | ending _ | done => true
  | _ => false

/-- The worker is in a pause or in a read, up to its return to the body. -/
def isWithin : Phase κ → Bool
  | pausing _ | reading _ | closing _ | returning _ => true
  | _ => false

/-- The worker is in a pause that it has not left, or in a read whose answer has not been taken. -/
def isUndecided : Phase κ → Bool
  | pausing _ | reading _ => true
  | _ => false

theorem isOver_eq_false_of_isReading {f : Phase κ} (h : f.isReading = true) :
    f.isOver = false := by
  cases f <;> first | rfl | simp [isReading] at h

theorem isOver_eq_false_of_isWithin {f : Phase κ} (h : f.isWithin = true) : f.isOver = false := by
  cases f <;> first | rfl | simp [isWithin] at h

/-- How the phase of the worker of a run changes where the control state does not. A panic goes
through a pause (`tear`) or meets the end of a pause or of a read (`divert`). -/
inductive Moves (run : RunId) : Label κ → Phase κ → Phase κ → Prop
  | stay {l : Label κ} {f : Phase κ} : Moves run l f f
  | enter {l : Label κ} {state : κ} : Moves run l busy (body state)
  | ask {c : Call κ} {state : κ} : Moves run (.call run c) (body state) busy
  | go {c : Call κ} {state state' : κ} : Moves run (.call run c) (body state) (body state')
  | back {l : Label κ} {state : κ} : Moves run l (returning state) (body state)
  | tear {payload : Payload} {hold : Hold κ} : Moves run (.panicked run payload) (pausing hold) busy
  | divert {payload : Payload} {state : κ} :
    Moves run (.panicked run payload) (returning state) busy
  | conclude {l : Label κ} {result : RunResult} : Moves run l busy (finishing result)
  | retire {l : Label κ} {result : RunResult} : Moves run l (ending result) done

variable {run : RunId} {l : Label κ} {f f' : Phase κ}

theorem Moves.isOver (h : Moves run l f f') : f'.isOver = f.isOver := by cases h <;> rfl

theorem Moves.isReading (h : Moves run l f f') : f'.isReading = f.isReading := by cases h <;> rfl

theorem Moves.eq_reading {ask : Ask κ} (h : Moves run l f (reading ask)) : f = reading ask := by
  cases h
  rfl

theorem Moves.eq_ending {result : RunResult} (h : Moves run l f (ending result)) :
    f = ending result := by
  cases h
  rfl

theorem Moves.of_pausing {hold : Hold κ} (h : Moves run l (pausing hold) f) :
    f = pausing hold ∨ ∃ payload, l = .panicked run payload := by
  cases h with
  | stay => exact .inl rfl
  | tear => exact .inr ⟨_, rfl⟩

theorem Moves.of_reading {ask : Ask κ} (h : Moves run l (reading ask) f) : f = reading ask := by
  cases h
  rfl

theorem Moves.of_closing {exit : ReadExit κ} (h : Moves run l (closing exit) f) :
    f = closing exit := by
  cases h
  rfl

theorem Moves.of_returning {state : κ} (h : Moves run l (returning state) f) :
    f = returning state ∨ f = body state ∨ ∃ payload, l = .panicked run payload := by
  cases h with
  | stay => exact .inl rfl
  | back => exact .inr (.inl rfl)
  | divert => exact .inr (.inr ⟨_, rfl⟩)

theorem Moves.of_body {state : κ} (h : Moves run l (body state) f) (hl : ∀ c, l ≠ .call run c) :
    f = body state := by
  cases h with
  | stay => rfl
  | ask | go => exact absurd rfl (hl _)

end Phase

/-- What a notification interrupts. -/
def AfterNotice.phase : AfterNotice κ → Phase κ
  | libraries => .busy
  | highlight h | hold h => .pausing h
  | proceed state | leaveRead (.answer state) => .returning state
  | awaitAnswer ask => .reading ask
  | leaveRead (.unwind _) => .busy

namespace Point

/-- How far the worker is. -/
def phase : Point κ → Phase κ
  | announcing _ after | telling _ _ after => after.phase
  | body state => .body state
  | holding hold | held hold => .pausing hold
  | requesting ask | asking ask _ | checking ask | awaiting ask | awaitingAsleep ask => .reading ask
  | closingRead exit => .closing exit
  | finishing result _ => .finishing result
  | ending result _ => .ending result
  | done => .done
  | _ => .busy

/-- What a worker waits for, asleep or about to test its condition. -/
def wait? : Point κ → Option (Wait κ)
  | holding hold | held hold => some (.resumption hold)
  | awaiting ask | awaitingAsleep ask => some (.answer ask)
  | _ => none

/-- What a worker sleeps on. -/
def parked? : Point κ → Option (Wait κ)
  | held hold => some (.resumption hold)
  | awaitingAsleep ask => some (.answer ask)
  | _ => none

/-- The worker is about to look up the provider of a read. -/
def isRequesting : Point κ → Bool
  | requesting _ => true
  | _ => false

/-- The run is about to be no longer alive. -/
def isFinishing : Point κ → Bool
  | finishing _ _ => true
  | _ => false

@[simp] theorem wait?_test (w : Wait κ) : w.test.wait? = some w := by cases w <;> rfl
@[simp] theorem wait?_sleep (w : Wait κ) : w.sleep.wait? = some w := by cases w <;> rfl
@[simp] theorem parked?_test (w : Wait κ) : w.test.parked? = none := by cases w <;> rfl
@[simp] theorem parked?_sleep (w : Wait κ) : w.sleep.parked? = some w := by cases w <;> rfl
@[simp] theorem isAsleep_sleep (w : Wait κ) : w.sleep.isAsleep = true := by cases w <;> rfl
@[simp] theorem wake_sleep (w : Wait κ) : w.sleep.wake = w.test := by cases w <;> rfl
@[simp] theorem phase_sleep (w : Wait κ) : w.sleep.phase = w.test.phase := by cases w <;> rfl
@[simp] theorem phase_wake (p : Point κ) : p.wake.phase = p.phase := by cases p <;> rfl

theorem isAsleep_iff {p : Point κ} : p.isAsleep = true ↔ ∃ w, p = Wait.sleep w := by
  constructor
  · intro h
    cases p with
    | held hold => exact ⟨.resumption hold, rfl⟩
    | awaitingAsleep ask => exact ⟨.answer ask, rfl⟩
    | _ => simp [isAsleep] at h
  · rintro ⟨w, rfl⟩
    exact isAsleep_sleep w

theorem wake_of_isOutside {p : Point κ} (h : p.isOutside = true) : p.wake = p := by
  cases p <;> first | rfl | simp [isOutside] at h

theorem over_cases {p : Point κ} (h : p.phase.isOver = true) :
    (∃ result queue, p = .ending result queue) ∨ p = .done := by
  cases p with
  | ending result queue => exact .inl ⟨result, queue, rfl⟩
  | done => exact .inr rfl
  | announcing notice after | telling notice queue after =>
    cases after with
    | leaveRead exit => cases exit <;> cases h
    | _ => cases h
  | _ => cases h

end Point

/-! ## What calls and turns do -/

/-- What a call does to the control state and to the handles, and the second step it owes. The
`other` calls are refused, or are about something else. -/
inductive Acted (c : Control) (hs : List UInt64) :
    Action → Control → List UInt64 → Option Pending → Prop
  | start {args : List String} {mode : DebugMode} {c' : Control} :
    c.start mode = some c' → Acted c hs (.start args mode) c' hs (some (.submit args))
  | resume {mode : DebugMode} {c' : Control} :
    c.resume mode = some c' → Acted c hs (.resume mode) c' hs (some .notify)
  | interrupt {c' : Control} :
    c.interrupt = some c' → Acted c hs .interrupt c' hs (some .notify)
  | settle {ticket : UInt64} {answer : Option Value} {c' : Control} :
    ticket ∈ hs → c.settle ticket answer = some c' →
      Acted c hs (.settle ticket answer) c' (hs.erase ticket) (some .notify)
  | late {ticket : UInt64} {answer : Option Value} :
    ticket ∈ hs → c.settle ticket answer = none →
      Acted c hs (.settle ticket answer) c (hs.erase ticket) none
  | activate {lines : List UInt32} : Acted c hs (.activate lines) (c.activate lines) hs none
  | other {a : Action} :
    (∀ args mode, a = .start args mode → c.start mode = none) →
    (∀ mode, a = .resume mode → c.resume mode = none) →
    (a = .interrupt → c.interrupt = none) →
    (∀ ticket answer, a = .settle ticket answer → ticket ∉ hs) → Acted c hs a c hs none

/-- From `p` to `p'` a worker neither leaves a wait nor falls asleep, nor opens or answers a read,
nor ends the run. -/
structure Point.Passes (run : RunId) (l : Label κ) (p p' : Point κ) : Prop where
  moves : p.phase.Moves run l p'.phase
  wait? : p.wait? = none
  parked? : p'.parked? = none
  isFinishing : p.isFinishing = false
  isRequesting : p.isRequesting = false
  isRequesting' : p'.isRequesting = false

/-- What a turn of the worker of a run does to the control state, to the handles and to the place of
the worker. In `report` a position is reported where the run does not pause. -/
inductive Turn (run : RunId) :
    Label κ → Control → List UInt64 → Point κ → Control → List UInt64 → Point κ → Prop
  | pass {l : Label κ} {c : Control} {hs : List UInt64} {p p' : Point κ} :
    p.Passes run l p' → Turn run l c hs p c hs p'
  | report {c : Control} {hs : List UInt64} {state : κ} {position : Position}
    {next : Except Fault Unit → κ} :
    (c.interrupted = true ∨ c.canPause position.line = false) →
      Turn run (.call run (.pausePoint position next)) c hs (.body state) { c with position } hs
        (.body (next (if c.interrupted then .error .interrupted else .ok ())))
  | pause {c : Control} {hs : List UInt64} {state : κ} {position : Position}
    {next : Except Fault Unit → κ} :
    c.interrupted = false → c.canPause position.line = true →
      Turn run (.call run (.pausePoint position next)) c hs (.body state) { c with position } hs
        (.announcing .paused (.highlight ⟨c.generation, position.line, next⟩))
  | openRead {c c' : Control} {hs : List UInt64} {state : κ} {type : DataType}
    {next : Except Fault Value → κ} :
    c.openRead = some c' →
      Turn run (.call run (.read type next)) c hs (.body state) c' hs
        (.requesting ⟨c'.read.ticket, type, next⟩)
  | request {c : Control} {hs : List UInt64} {ask : Ask κ} {provider : ProviderId} {elapsed : Nat} :
    Turn run (.advance run elapsed) c hs (.requesting ask) c (hs ++ [ask.ticket])
      (.asking ask provider)
  | park {c : Control} {hs : List UInt64} {w : Wait κ} {elapsed : Nat} :
    c.blocks w = true → Turn run (.advance run elapsed) c hs w.test c hs w.sleep
  | release {c : Control} {hs : List UInt64} {hold : Hold κ} {elapsed : Nat} :
    c.isHeld hold.generation = false →
      Turn run (.advance run elapsed) c hs (.holding hold) c hs
        (.announcing .resumed
          (.proceed (hold.next (if c.interrupted then .error .interrupted else .ok ()))))
  | take {c : Control} {hs : List UInt64} {p : Point κ} {ask : Ask κ} {elapsed : Nat} :
    p = .checking ask ∨ p = .awaiting ask → c.awaitsAnswer = false →
      Turn run (.advance run elapsed) c hs p (c.takeAnswer ask.type).1 hs
        (.closingRead (.answer (ask.next (c.takeAnswer ask.type).2)))
  | unwind {c : Control} {hs : List UInt64} {p : Point κ} {ask : Ask κ} {payload : Payload} :
    p.phase = .reading ask → p.wait? = none →
      Turn run (.panicked run payload) c hs p c hs (.closingRead (.unwind payload.message))
  | close {c : Control} {hs : List UInt64} {exit : ReadExit κ} {elapsed : Nat} :
    Turn run (.advance run elapsed) c hs (.closingRead exit) c.closeRead hs
      (.announcing .resumed (.leaveRead exit))
  | finish {c : Control} {hs : List UInt64} {result : RunResult} {watchers : List ObserverId}
    {elapsed : Nat} :
    Turn run (.advance run elapsed) c hs (.finishing result watchers) c.finish hs
      (.ending result watchers)

namespace System

/-- The worker of a run, with its task `t`, takes a turn and goes to `p`. -/
structure Turned (run : RunId) (l : Label κ) (t : Task κ) (p : Point κ) (s s' : System κ) :
    Prop where
  task : s.tasks[run]? = some t
  free : s.isBusy (.worker run) = false
  turn : Turn run l s.control s.handles t.point s'.control s'.handles p
  tasks : s'.tasks = s.tasks.set run { t with point := p }
  inFlight : s'.inFlight = s.inFlight

/-- The kinds of steps. -/
inductive Stepped (s s' : System κ) : Label κ → Prop
  | act {t : Thread} {a : Action} {owed : Option Pending} :
    s.mayAct t = true → Acted s.control s.handles a s'.control s'.handles owed →
    s'.tasks = s.tasks → s'.inFlight = s.inFlight ++ (owed.map (t, ·)).toList →
      Stepped s s' (.act t a)
  | notify {t : Thread} :
    (t, .notify) ∈ s.inFlight → s'.control = s.control → s'.handles = s.handles →
    s'.tasks = s.tasks.map (fun task => { task with point := task.point.wake }) →
    s'.inFlight = s.inFlight.filter (fun p => p.1 ≠ t) → Stepped s s' (.complete t)
  | submit {t : Thread} {args : List String} :
    (t, .submit args) ∈ s.inFlight → s'.control = s.control → s'.handles = s.handles →
    s'.tasks = s.tasks ++ [⟨args, .queued⟩] →
    s'.inFlight = s.inFlight.filter (fun p => p.1 ≠ t) → Stepped s s' (.complete t)
  | wake {run : RunId} {t : Task κ} {w : Wait κ} :
    s.tasks[run]? = some t → t.point = w.sleep →
    s'.control = s.control → s'.handles = s.handles →
    s'.tasks = s.tasks.set run { t with point := w.test } → s'.inFlight = s.inFlight →
      Stepped s s' (.wake run)
  | turn {run : RunId} {l : Label κ} {t : Task κ} {p : Point κ} :
    l.worker? = some run → Turned run l t p s s' → Stepped s s' l

theorem Acts.acted {s s' : System κ} {t : Thread} {a : Action} (h : s.Acts t a s') :
    ∃ owed, Acted s.control s.handles a s'.control s'.handles owed ∧ s'.tasks = s.tasks ∧
      s'.inFlight = s.inFlight ++ (owed.map (t, ·)).toList := by
  cases h with
  | start hc => exact ⟨some (.submit _), .start hc, rfl, rfl⟩
  | resume hc => exact ⟨some .notify, .resume hc, rfl, rfl⟩
  | interrupt hc => exact ⟨some .notify, .interrupt hc, rfl, rfl⟩
  | settle hk hc => exact ⟨some .notify, .settle hk hc, rfl, rfl⟩
  | late hk hc => exact ⟨none, .late hk hc, rfl, (List.append_nil _).symm⟩
  | activate => exact ⟨none, .activate, rfl, (List.append_nil _).symm⟩
  | _ => exact ⟨none, .other (by simp_all) (by simp_all) (by simp_all) (by simp_all), rfl,
      (List.append_nil _).symm⟩

variable {setup : Setup κ} {s s' s₁ : System κ} {run : RunId} {args : List String} {p p' : Point κ}
  {l : Label κ}

theorem passes_afterNotice (notice : Notice) (after : AfterNotice κ) :
    (Point.telling notice [] after).Passes run l (after.point setup) := by
  cases after with
  | proceed state => exact ⟨.back, rfl, rfl, rfl, rfl, rfl⟩
  | leaveRead exit => cases exit with
    | answer state => exact ⟨.back, rfl, rfl, rfl, rfl, rfl⟩
    | unwind message => exact ⟨.stay, rfl, rfl, rfl, rfl, rfl⟩
  | _ => exact ⟨.stay, rfl, rfl, rfl, rfl, rfl⟩

/-- A panic of a callback of a notification unwinds the read that waits for the notification, or
passes on. -/
theorem turn_torn {c : Control} {hs : List UInt64} {payload : Payload} {notice : Notice}
    {queue : List ObserverId} {after : AfterNotice κ} (h : after.torn? payload.message = some p) :
    Turn run (.panicked run payload) c hs (.telling notice queue after) c hs p := by
  cases after with
  | awaitAnswer ask =>
    obtain rfl := Option.some.inj h
    exact .unwind rfl rfl
  | leaveRead exit =>
    cases exit with
    | answer state =>
      obtain rfl := Option.some.inj h
      exact .pass ⟨.divert, rfl, rfl, rfl, rfl, rfl⟩
    | unwind message => cases h
  | highlight hold | hold hold =>
    obtain rfl := Option.some.inj h
    exact .pass ⟨.tear, rfl, rfl, rfl, rfl, rfl⟩
  | proceed state =>
    obtain rfl := Option.some.inj h
    exact .pass ⟨.divert, rfl, rfl, rfl, rfl, rfl⟩
  | libraries =>
    obtain rfl := Option.some.inj h
    exact .pass ⟨.stay, rfl, rfl, rfl, rfl, rfl⟩

theorem Called.turn {c : Call κ} {state : κ} (h : s.Called setup c s₁ p) :
    Turn run (.call run c) s.control s.handles (.body state) s₁.control s₁.handles p := by
  cases h with
  | report hpass => exact .report hpass
  | pause hi hc => exact .pause hi hc
  | openRead ho => exact .openRead ho
  | finish | panic | write | clear | overflow => exact .pass ⟨.ask, rfl, rfl, rfl, rfl, rfl⟩
  | _ => exact .pass ⟨.go, rfl, rfl, rfl, rfl, rfl⟩

theorem Takes.turn (h : s.Takes setup run args l p s₁ p') :
    Turn run l s.control s.handles p s₁.control s₁.handles p' := by
  cases h with
  | told => exact .pass (passes_afterNotice _ _)
  | enter => exact .pass ⟨.enter, rfl, rfl, rfl, rfl, rfl⟩
  | park hb => exact .park hb
  | release hb => exact .release hb
  | request => exact .request
  | take hp hb => exact .take hp hb
  | close => exact .close
  | drained => exact .pass ⟨.conclude, rfl, rfl, rfl, rfl, rfl⟩
  | finished => exact .finish
  | retired => exact .pass ⟨.retire, rfl, rfl, rfl, rfl, rfl⟩
  | called hcalled => exact hcalled.turn
  | returned hskips => cases hskips <;> exact .pass ⟨.stay, rfl, rfl, rfl, rfl, rfl⟩
  | written | cleared | unwritten | uncleared | caught =>
    exact .pass ⟨.enter, rfl, rfl, rfl, rfl, rfl⟩
  | tornNotice htorn => exact turn_torn htorn
  | collided hp =>
    subst hp
    exact .pass ⟨.stay, rfl, rfl, rfl, rfl, rfl⟩
  | tornRequest => exact .unwind rfl rfl
  | _ => exact .pass ⟨.stay, rfl, rfl, rfl, rfl, rfl⟩

theorem Takes.turned {t : Task κ} (h : s.Takes setup run t.args l t.point s₁ p')
    (ht : s.freeTask? run = some t) : Turned run l t p' s (s₁.goto run p') := by
  obtain ⟨hfree, htask⟩ := freeTask?_eq_some_iff.1 ht
  refine ⟨htask, hfree, h.turn, ?_, h.inFlight⟩
  rw [tasks_goto (h.tasks ▸ htask), h.tasks]

theorem turned_of_step (hl : l.worker? = some run) (h : s.step setup l = some s') :
    ∃ t p', Turned run l t p' s s' := by
  obtain ⟨t, s₁, p', ht, rfl, htakes⟩ := takes_of_step hl h
  exact ⟨t, p', htakes.turned ht⟩

/-- **Every step is a call, a second step, an idle wake-up or a turn of a worker.** -/
theorem stepped_of_step (h : s.step setup l = some s') : Stepped s s' l := by
  cases does_of_step h with
  | act hmay hacts =>
    obtain ⟨owed, hacted, htasks, hflight⟩ := hacts.acted
    exact .act hmay hacted htasks hflight
  | @complete t owed hmem =>
    cases owed with
    | notify => exact .notify hmem rfl rfl rfl rfl
    | submit args => exact .submit hmem rfl rfl rfl rfl
  | wake ht hasleep =>
    obtain ⟨w, hw⟩ := Point.isAsleep_iff.1 hasleep
    refine .wake ht hw rfl rfl ?_ rfl
    rw [hw, Point.wake_sleep, tasks_goto ht]
  | turn hl ht htakes => exact .turn hl (htakes.turned ht)

/-! ## The phase of a run -/

/-- How far the worker of a run is. -/
def phase? (s : System κ) (run : RunId) : Option (Phase κ) := (s.point? run).map Point.phase

theorem phase?_eq_some_iff {f : Phase κ} :
    s.phase? run = some f ↔ ∃ t, s.tasks[run]? = some t ∧ t.point.phase = f := by
  simp [phase?, point?]

theorem Turned.getElem? {t : Task κ} (h : Turned run l t p s s') (r : RunId) :
    s'.tasks[r]? = if r = run then some { t with point := p } else s.tasks[r]? := by
  have hlt : run < s.tasks.length := (List.getElem?_eq_some_iff.1 h.task).1
  rw [h.tasks, List.getElem?_set]
  by_cases hr : r = run
  · simp [hr, hlt]
  · simp [hr, Ne.symm hr]

theorem Turned.point? {t : Task κ} (h : Turned run l t p s s') :
    s.point? run = some t.point ∧ s'.point? run = some p := by
  unfold System.point?
  rw [h.getElem?, if_pos rfl, h.task]
  exact ⟨rfl, rfl⟩

/-- A step that is not a turn of its own worker moves a run only by waking it, or hands it to the
pool. -/
theorem Stepped.point?_cases (h : Stepped s s' l) (hl : l.worker? ≠ some run) :
    s'.point? run = s.point? run ∨
      (s.tasks.length = run ∧ s.point? run = none ∧ s'.point? run = some .queued) ∨
      s'.point? run = (s.point? run).map Point.wake ∧
        (l = .wake run ∨ ∃ t, l = .complete t ∧ (t, .notify) ∈ s.inFlight) := by
  unfold point?
  cases h with
  | act _ _ ht _ => rw [ht]; exact .inl rfl
  | @notify t hmem _ _ ht _ =>
    refine .inr (.inr ⟨?_, .inr ⟨t, rfl, hmem⟩⟩)
    rw [ht, List.getElem?_map]
    cases s.tasks[run]? <;> rfl
  | submit _ _ _ ht _ =>
    rw [ht]
    obtain hlt | rfl | hgt := Nat.lt_trichotomy run s.tasks.length
    · rw [List.getElem?_append_left hlt]
      exact .inl rfl
    · exact .inr (.inl ⟨rfl, by simp, by simp⟩)
    · have h1 : s.tasks.length ≤ run := Nat.le_of_lt hgt
      rw [List.getElem?_append_right h1, List.getElem?_eq_none h1,
        List.getElem?_eq_none (by simp; omega)]
      exact .inl rfl
  | @wake r t w htask hp _ _ ht _ =>
    rw [ht]
    by_cases hr : r = run
    · subst hr
      have hlt := (List.getElem?_eq_some_iff.1 htask).1
      rw [List.getElem?_set_self hlt, htask]
      exact .inr (.inr ⟨by simp [hp], .inl rfl⟩)
    · rw [List.getElem?_set_ne hr]
      exact .inl rfl
  | @turn r _ t p hr ht =>
    have hne : run ≠ r := by
      rintro rfl
      exact hl hr
    rw [ht.getElem?, if_neg hne]
    exact .inl rfl

theorem Stepped.phase?_eq (h : Stepped s s' l) (hl : l.worker? ≠ some run) :
    s'.phase? run = s.phase? run ∨
      s.tasks.length = run ∧ s.phase? run = none ∧ s'.phase? run = some .busy := by
  unfold phase?
  obtain he | ⟨hlen, hnone, hqueued⟩ | ⟨he, -⟩ := h.point?_cases hl
  · exact .inl (by rw [he])
  · exact .inr ⟨hlen, by rw [hnone]; rfl, by rw [hqueued]; rfl⟩
  · rw [he]
    cases s.point? run <;> simp

theorem Turned.phase?_of_ne {t : Task κ} {r : RunId} (h : Turned run l t p s s') (hr : r ≠ run) :
    s'.phase? r = s.phase? r := by
  unfold System.phase? System.point?
  rw [h.getElem?, if_neg hr]

theorem Turned.phase? {t : Task κ} (h : Turned run l t p s s') :
    s.phase? run = some t.point.phase ∧ s'.phase? run = some p.phase := by
  unfold System.phase?
  rw [h.point?.1, h.point?.2]
  exact ⟨rfl, rfl⟩

end System

end RunControl
