import Mathlib.Data.List.Basic
import RunControl.Proofs.Interrupt

/-!
# Executions in other numbers

Runs, tickets and resumes are numbered, and the age of a run is read off a clock. What a system does
depends on none of these numbers, only on which of them are equal; nor does it depend on the runs
that are done, on their handles or on the flag that their last read has left up.

* `Shift`, `Leftover`: other numbers, and what earlier runs have left behind;
* `Shift.system`: the same system in other numbers, after earlier runs;
* **`Shift.step_system`**: it takes the same steps;
* `Sound`: what every step keeps, so that this applies.
-/

namespace RunControl

variable {κ : Type}

/-- How the numbers of one execution correspond to those of another. -/
structure Shift where
  runs : ℕ
  tickets : UInt64
  generation : UInt64
  clock : ℕ → ℕ

/-- What earlier runs have left behind: calls whose second step is to come, handles that have not
been settled, and whether the last read was abandoned. -/
structure Leftover (κ : Type) where
  tasks : List (Task κ)
  late : List (Thread × Pending)
  stale : List UInt64
  abandoned : Bool

namespace Shift

/-- The same numbers, whatever a clock shows. -/
def still : Shift := ⟨0, 0, 0, fun _ => 0⟩

variable (d : Shift)

/-! ## The parts of a system -/

/-- The thread in other numbers. -/
def thread : Thread → Thread
  | .controller n => .controller n
  | .worker run => .worker (d.runs + run)

/-- The call in other numbers. -/
def action : Action → Action
  | .settle ticket answer => .settle (d.tickets + ticket) answer
  | a => a

/-- The step in other numbers. -/
def label : Label κ → Label κ
  | .act t a => .act (d.thread t) (d.action a)
  | .complete t => .complete (d.thread t)
  | .advance run elapsed => .advance (d.runs + run) (d.clock elapsed)
  | .wake run => .wake (d.runs + run)
  | .call run c => .call (d.runs + run) c
  | .returned run => .returned (d.runs + run)
  | .libraryFailed run error => .libraryFailed (d.runs + run) error
  | .sinkFailed run error => .sinkFailed (d.runs + run) error
  | .panicked run payload => .panicked (d.runs + run) payload
  | .caught run state => .caught (d.runs + run) state

/-- The result by another clock. -/
def result (r : RunResult) : RunResult := { r with elapsed := d.clock r.elapsed }

/-- The notice by another clock. -/
def notice : Notice → Notice
  | .ended result => .ended (d.result result)
  | n => n

/-- The pause in other numbers. -/
def hold (h : Hold κ) : Hold κ := { h with generation := d.generation + h.generation }

/-- The read in other numbers. -/
def ask (a : Ask κ) : Ask κ := { a with ticket := d.tickets + a.ticket }

/-- What follows a notification, in other numbers. -/
def after : AfterNotice κ → AfterNotice κ
  | .highlight h => .highlight (d.hold h)
  | .hold h => .hold (d.hold h)
  | .awaitAnswer a => .awaitAnswer (d.ask a)
  | after => after

/-- The place of a worker in other numbers. -/
def point : Point κ → Point κ
  | .announcing notice after => .announcing (d.notice notice) (d.after after)
  | .telling notice queue after => .telling (d.notice notice) queue (d.after after)
  | .holding h => .holding (d.hold h)
  | .held h => .held (d.hold h)
  | .requesting a => .requesting (d.ask a)
  | .asking a provider => .asking (d.ask a) provider
  | .checking a => .checking (d.ask a)
  | .awaiting a => .awaiting (d.ask a)
  | .awaitingAsleep a => .awaitingAsleep (d.ask a)
  | .draining r => .draining (d.result r)
  | .finishing r watchers => .finishing (d.result r) watchers
  | .ending r queue => .ending (d.result r) queue
  | q => q

/-- The task in other numbers. -/
def task (t : Task κ) : Task κ := { t with point := d.point t.point }

/-- The control state in other numbers; before its first read, the flag of an abandoned read is the
one that was left behind. -/
def control (abandoned : Bool) (c : Control) : Control :=
  { c with
    generation := d.generation + c.generation
    read :=
      { c.read with
        ticket := d.tickets + c.read.ticket
        abandoned := c.read.abandoned || (c.read.ticket == 0 && abandoned) } }

/-- The system in other numbers, after earlier runs. -/
def system (left : Leftover κ) (s : System κ) : System κ :=
  { s with
    control := d.control left.abandoned s.control
    tasks := left.tasks ++ s.tasks.map d.task
    inFlight := left.late ++ s.inFlight.map fun p => (d.thread p.1, p.2)
    handles := left.stale ++ s.handles.map fun k => d.tickets + k }

end Shift

/-! ## Critical sections -/

/-- A flag that is left over stands before the first read only: no read that is open, or comes next,
has the ticket zero. -/
structure Numbered (abandoned : Bool) (c : Control) : Prop where
  current : abandoned = true → c.read.awaiting = true → c.read.ticket ≠ 0
  next : abandoned = true → c.read.ticket + 1 ≠ 0

theorem Numbered.of_false (c : Control) : Numbered false c where
  current h := absurd h Bool.false_ne_true
  next h := absurd h Bool.false_ne_true

namespace Shift

variable (d : Shift) (abandoned : Bool) (c : Control)

section Sections

theorem flag_eq_false {abandoned : Bool} {ticket : UInt64} (h : abandoned = true → ticket ≠ 0) :
    (ticket == 0 && abandoned) = false := by
  cases abandoned with
  | false => exact Bool.and_false _
  | true => simpa using h rfl

theorem isHeld_control (g : UInt64) :
    (d.control abandoned c).isHeld (d.generation + g) = c.isHeld g := by
  have h : (d.generation + c.generation == d.generation + g) = (c.generation == g) := by
    rw [Bool.eq_iff_iff, beq_iff_eq, beq_iff_eq]
    exact UInt64.add_right_inj d.generation
  exact congrArg (· && !c.interrupted) h

theorem start_control (mode : DebugMode) :
    (d.control abandoned c).start mode = (c.start mode).map (d.control abandoned) := by
  unfold Control.start
  cases h : c.alive <;> simp [control, h]

theorem interrupt_control :
    (d.control abandoned c).interrupt = c.interrupt.map (d.control abandoned) := by
  unfold Control.interrupt
  cases h : c.alive <;> cases h' : c.interrupted <;> simp [control, h, h']

theorem openRead_control (hn : Numbered abandoned c) :
    (d.control abandoned c).openRead = c.openRead.map (d.control abandoned) := by
  have hflag : (c.read.ticket + 1 == 0 && abandoned) = false := flag_eq_false hn.next
  unfold Control.openRead
  cases h : c.interrupted with
  | true => simp [control, h]
  | false => simp only [control, h, hflag, UInt64.add_assoc, Bool.false_eq_true, if_false,
      Option.map_some, Bool.or_false]

theorem reach_control (position : Position) : (d.control abandoned c).reach position =
    (d.control abandoned (c.reach position).1, match (c.reach position).2 with
      | .pause generation => .pause (d.generation + generation)
      | decision => decision) := by
  unfold Control.reach
  cases h : c.interrupted <;> cases h' : c.canPause position.line <;>
    simp_all [control, Control.canPause]

theorem resume_control (mode : DebugMode) :
    (d.control abandoned c).resume mode = (c.resume mode).map (d.control abandoned) := by
  have hrunning : (d.control abandoned c).isRunning = c.isRunning := rfl
  unfold Control.resume
  rw [hrunning]
  cases c.isRunning with
  | false => rfl
  | true => cases ha : c.read.awaiting <;> simp [control, ha, UInt64.add_assoc]

theorem isOpen_control (h : abandoned = true → c.read.ticket ≠ 0) :
    (d.control abandoned c).read.isOpen = c.read.isOpen := by
  simp only [control, ReadState.isOpen, flag_eq_false h, Bool.or_false]

theorem awaitsAnswer_control (h : abandoned = true → c.read.ticket ≠ 0) :
    (d.control abandoned c).awaitsAnswer = c.awaitsAnswer :=
  congrArg (· && !c.interrupted) (d.isOpen_control abandoned c h)

theorem settle_control (ticket : UInt64) (answer : Option Value) (hn : Numbered abandoned c) :
    (d.control abandoned c).settle (d.tickets + ticket) answer =
      (c.settle ticket answer).map (d.control abandoned) := by
  unfold Control.settle
  cases ha : c.read.awaiting with
  | false =>
    have ha' : (d.control abandoned c).read.awaiting = false := ha
    simp [ha']
  | true =>
    have ha' : (d.control abandoned c).read.awaiting = true := ha
    have hticket : ((d.control abandoned c).read.ticket != d.tickets + ticket) =
        (c.read.ticket != ticket) := by
      have hiff : d.tickets + c.read.ticket = d.tickets + ticket ↔ c.read.ticket = ticket :=
        UInt64.add_right_inj d.tickets
      rw [Bool.eq_iff_iff, bne_iff_ne, bne_iff_ne]
      exact not_congr hiff
    rw [ha', hticket, d.isOpen_control abandoned c (hn.current · ha)]
    split_ifs <;> rfl

theorem takeAnswer_control (type : DataType) (h : abandoned = true → c.read.ticket ≠ 0) :
    (d.control abandoned c).takeAnswer type =
      (d.control abandoned (c.takeAnswer type).1, (c.takeAnswer type).2) := by
  have hoff : (d.control abandoned c).read.abandoned = c.read.abandoned := by
    simp only [control, flag_eq_false h, Bool.or_false]
  unfold Control.takeAnswer
  cases hi : c.interrupted with
  | true =>
    have hi' : (d.control abandoned c).interrupted = true := hi
    simp [hi']
  | false =>
    have hi' : (d.control abandoned c).interrupted = false := hi
    simp only [hi', Bool.false_eq_true, if_false, hoff]
    refine Prod.ext ?_ rfl
    simp only [control, flag_eq_false h, Bool.or_false]

end Sections

/-! ## Places -/

section Places

theorem isOutside_point (q : Point κ) : (d.point q).isOutside = q.isOutside := by
  cases q with
  | telling notice queue after => cases queue <;> rfl
  | initializing left => cases left <;> rfl
  | finalizing left outcome => cases left <;> rfl
  | ending result queue => cases queue <;> rfl
  | _ => rfl

theorem isAsleep_point (q : Point κ) : (d.point q).isAsleep = q.isAsleep := by cases q <;> rfl

theorem wake_point (q : Point κ) : (d.point q).wake = d.point q.wake := by cases q <;> rfl

theorem point_after (setup : Setup κ) (after : AfterNotice κ) :
    (d.after after).point setup = d.point (after.point setup) := by
  cases after with
  | leaveRead exit => cases exit <;> rfl
  | _ => rfl

theorem thread_inj {t u : Thread} : d.thread t = d.thread u ↔ t = u := by
  cases t <;> cases u <;> simp [thread]

theorem ofOutcome_clock (setup : Setup κ) (position : Position) (elapsed : ℕ)
    (outcome : Except Fault Unit) :
    RunResult.ofOutcome setup.translators setup.info position (d.clock elapsed) outcome =
      (RunResult.ofOutcome setup.translators setup.info position elapsed outcome).map d.result := by
  cases outcome with
  | ok u => rfl
  | error fault =>
    simp only [RunResult.ofOutcome]
    cases fault.diagnostic? setup.translators setup.info position with
    | error payload => rfl
    | ok diagnostic => cases diagnostic <;> rfl

end Places

/-! ## The system -/

section System

variable {left : Leftover κ} {s s₁ : System κ} {run : RunId} {q : Point κ}

/-- The leftover does not stand in the way: the earlier runs are done and were as many as the shift
says, and only controllers are late. -/
structure Clear (d : Shift) (left : Leftover κ) : Prop where
  runs : left.tasks.length = d.runs
  done : ∀ t ∈ left.tasks, t.point = .done
  late : ∀ p ∈ left.late, ∃ n, p = (.controller n, .notify)
  stale : ∀ k ∈ left.stale, k ≤ d.tickets

theorem control_system : (d.system left s).control = d.control left.abandoned s.control := rfl

theorem getElem?_tasks (hc : d.Clear left) (run : RunId) :
    (d.system left s).tasks[d.runs + run]? = (s.tasks[run]?).map d.task := by
  have hle : left.tasks.length ≤ d.runs + run := hc.runs ▸ Nat.le_add_right _ _
  rw [system, List.getElem?_append_right hle, List.getElem?_map, hc.runs, Nat.add_sub_cancel_left]

theorem point?_system (hc : d.Clear left) (run : RunId) :
    (d.system left s).point? (d.runs + run) = (s.point? run).map d.point := by
  rw [System.point?, d.getElem?_tasks hc, System.point?, Option.map_map, Option.map_map]
  rfl

theorem Clear.apart_worker (hc : d.Clear left) (run : RunId) :
    ∀ p ∈ left.late, p.1 ≠ d.thread (.worker run) := by
  rintro p hp
  obtain ⟨n, rfl⟩ := hc.late p hp
  simp [thread]

theorem isBusy_system {t : Thread} (ht : ∀ p ∈ left.late, p.1 ≠ d.thread t) :
    (d.system left s).isBusy (d.thread t) = s.isBusy t := by
  have hlate : (left.late.any fun p => p.1 = d.thread t) = false :=
    List.any_eq_false.2 fun p hp => by simpa using ht p hp
  rw [System.isBusy, system, List.any_append, hlate, Bool.false_or, List.any_map]
  simp only [Function.comp_def, d.thread_inj, System.isBusy]

theorem mayAct_system (hc : d.Clear left) {t : Thread} (ht : ∀ p ∈ left.late, p.1 ≠ d.thread t) :
    (d.system left s).mayAct (d.thread t) = s.mayAct t := by
  unfold System.mayAct
  rw [d.isBusy_system ht]
  cases t with
  | controller n => rfl
  | worker run =>
    simp only [thread]
    rw [d.point?_system hc]
    cases s.point? run with
    | none => rfl
    | some q => exact congrArg (!s.isBusy (.worker run) && ·) (d.isOutside_point q)

theorem goto_system (hc : d.Clear left) (run : RunId) (q : Point κ) :
    (d.system left s).goto (d.runs + run) (d.point q) = d.system left (s.goto run q) := by
  have htasks : (left.tasks ++ s.tasks.map d.task).modify (d.runs + run)
      (fun t => { t with point := d.point q }) =
        left.tasks ++ (s.tasks.modify run fun t => { t with point := q }).map d.task := by
    refine List.ext_getElem? fun r => ?_
    rw [List.getElem?_modify]
    obtain hlt | hle := Nat.lt_or_ge r left.tasks.length
    · have hne : d.runs + run ≠ r := Nat.ne_of_gt (Nat.lt_add_right _ (hc.runs ▸ hlt))
      rw [List.getElem?_append_left hlt, List.getElem?_append_left hlt]
      simp [hne]
    · obtain ⟨i, rfl⟩ := Nat.exists_eq_add_of_le hle
      have hi : d.runs + run = left.tasks.length + i ↔ run = i := by
        rw [← hc.runs]
        exact Nat.add_left_cancel_iff
      rw [List.getElem?_append_right hle, List.getElem?_append_right hle, Nat.add_sub_cancel_left,
        List.getElem?_map, List.getElem?_map, List.getElem?_modify]
      simp only [hi, Option.map_eq_map, Option.map_map]
      exact congrArg (Option.map · s.tasks[i]?) (funext fun t => by split_ifs <;> rfl)
  exact congrArg (fun tasks => { d.system left s with tasks }) htasks

theorem freeTask?_system (hc : d.Clear left) (run : RunId) :
    (d.system left s).freeTask? (d.runs + run) = (s.freeTask? run).map d.task := by
  have hbusy : (d.system left s).isBusy (.worker (d.runs + run)) = s.isBusy (.worker run) :=
    d.isBusy_system (hc.apart_worker d run)
  unfold System.freeTask?
  rw [hbusy, d.getElem?_tasks hc]
  split_ifs <;> rfl

end System

/-! ## Calls -/

section Calls

variable {left : Leftover κ} {s : System κ} {t : Thread} {a : Action}

theorem promise_system (t : Thread) (p : Pending) :
    (d.system left s).promise (d.thread t) p = d.system left (s.promise t p) := by
  simp [System.promise, system]

theorem promise_control (t : Thread) (p : Pending) (c : Control) :
    ({ d.system left s with control := d.control left.abandoned c } : System κ).promise
        (d.thread t) p =
      d.system left (({ s with control := c } : System κ).promise t p) :=
  d.promise_system (s := { s with control := c }) t p

theorem mem_handles {ticket : UInt64} (h : d.tickets + ticket ∉ left.stale) :
    d.tickets + ticket ∈ (d.system left s).handles ↔ ticket ∈ s.handles := by
  simp [system, h]

theorem erase_handles {ticket : UInt64} (h : d.tickets + ticket ∉ left.stale) :
    (d.system left s).handles.erase (d.tickets + ticket) =
      left.stale ++ (s.handles.erase ticket).map fun k => d.tickets + k := by
  rw [system, List.erase_append_right _ h,
    List.map_erase fun _ _ => (UInt64.add_right_inj d.tickets).1]

theorem act_system (ha : ∀ k answer, a = .settle k answer → d.tickets + k ∉ left.stale)
    (hn : Numbered left.abandoned s.control) :
    (d.system left s).act (d.thread t) (d.action a) = d.system left (s.act t a) := by
  cases a with
  | start args mode =>
    have hstart := d.start_control left.abandoned s.control mode
    simp only [System.act, action]
    rw [control_system, hstart]
    cases s.control.start mode with
    | none => rfl
    | some c => exact d.promise_control t _ c
  | resume mode =>
    have hresume := d.resume_control left.abandoned s.control mode
    simp only [System.act, action]
    rw [control_system, hresume]
    cases s.control.resume mode with
    | none => rfl
    | some c => exact d.promise_control t _ c
  | interrupt =>
    have hinterrupt := d.interrupt_control left.abandoned s.control
    simp only [System.act, action]
    rw [control_system, hinterrupt]
    cases s.control.interrupt with
    | none => rfl
    | some c => exact d.promise_control t _ c
  | settle ticket answer =>
    -- the shifted handle is not among those left over, so the same one is used up
    have hstale := ha ticket answer rfl
    simp only [System.act, action, d.mem_handles hstale, d.erase_handles hstale]
    rw [control_system, d.settle_control left.abandoned s.control ticket answer hn]
    split_ifs
    · cases s.control.settle ticket answer with
      | none => rfl
      | some c =>
        exact d.promise_control (s := { s with handles := s.handles.erase ticket }) t _ c
    · rfl
  | _ => rfl

theorem finishCall_system (hc : d.Clear left) (p : Pending) :
    (d.system left s).finishCall p = d.system left (s.finishCall p) := by
  cases p with
  | notify =>
    have hdone : left.tasks.map (fun t => { t with point := t.point.wake }) = left.tasks :=
      map_wake_of_awake fun t ht => by rw [hc.done t ht]; rfl
    have htasks : (left.tasks ++ s.tasks.map d.task).map
        (fun t => { t with point := t.point.wake }) =
          left.tasks ++ (s.tasks.map fun t => { t with point := t.point.wake }).map d.task := by
      rw [List.map_append, hdone, List.map_map, List.map_map]
      refine congrArg (left.tasks ++ ·) (List.map_congr_left fun t _ => ?_)
      exact congrArg (Task.mk t.args) (d.wake_point t.point)
    exact congrArg (fun tasks => { d.system left s with tasks }) htasks
  | submit args =>
    have htasks : left.tasks ++ s.tasks.map d.task ++ [Task.mk args .queued] =
        left.tasks ++ (s.tasks ++ [Task.mk args .queued]).map d.task := by
      rw [List.map_append, List.append_assoc]
      rfl
    exact congrArg (fun tasks => { d.system left s with tasks }) htasks

theorem complete_system (hc : d.Clear left) (ht : ∀ p ∈ left.late, p.1 ≠ d.thread t) :
    (d.system left s).complete (d.thread t) = (s.complete t).map (d.system left) := by
  have hfind : (d.system left s).inFlight.find? (fun p => p.1 = d.thread t) =
      (s.inFlight.find? fun p => p.1 = t).map fun p => (d.thread p.1, p.2) := by
    have hlate : left.late.find? (fun p => p.1 = d.thread t) = none :=
      List.find?_eq_none.2 fun p hp => by simpa using ht p hp
    rw [system, List.find?_append, hlate, Option.none_or, List.find?_map]
    simp only [Function.comp_def, d.thread_inj]
  have hfilter : (d.system left s).inFlight.filter (fun p => p.1 ≠ d.thread t) =
      left.late ++ (s.inFlight.filter fun p => p.1 ≠ t).map fun p => (d.thread p.1, p.2) := by
    have hlate : left.late.filter (fun p => p.1 ≠ d.thread t) = left.late :=
      List.filter_eq_self.2 fun p hp => by simpa using ht p hp
    rw [system, List.filter_append, hlate, List.filter_map]
    simp only [Function.comp_def, ne_eq, d.thread_inj]
  unfold System.complete
  rw [hfind, hfilter, Option.map_map, Option.map_map]
  refine Option.map_congr fun p _ => ?_
  exact d.finishCall_system (s := { s with inFlight := s.inFlight.filter fun p => p.1 ≠ t }) hc p.2

end Calls

/-! ## Turns -/

section Turns

variable {left : Leftover κ} {setup : Setup κ} {s : System κ} {run : RunId} {q : Point κ}

theorem takeAnswer_system (hc : d.Clear left)
    (h : left.abandoned = true → s.control.read.ticket ≠ 0) (ask : Ask κ) :
    (d.system left s).takeAnswer (d.runs + run) (d.ask ask) =
      d.system left (s.takeAnswer run ask) := by
  have htake := d.takeAnswer_control left.abandoned s.control ask.type h
  unfold System.takeAnswer
  rw [control_system, show (d.ask ask).type = ask.type from rfl, htake]
  exact d.goto_system (s := { s with control := (s.control.takeAnswer ask.type).1 }) hc run
    (.closingRead (.answer (ask.next (s.control.takeAnswer ask.type).2)))

theorem advance_system (hc : d.Clear left)
    (h : q.phase.isReading = true → left.abandoned = true → s.control.read.ticket ≠ 0)
    (args : List String) (elapsed : ℕ) :
    (d.system left s).advance setup (d.runs + run) args (d.clock elapsed) (d.point q) =
      (s.advance setup run args elapsed q).map (d.system left) := by
  have hgoto (p : Point κ) := d.goto_system (s := s) hc run p
  cases q with
  | telling notice queue after =>
    cases queue with
    | nil => exact congrArg some ((congrArg _ (d.point_after setup after)).trans (hgoto _))
    | cons o queue => rfl
  | initializing left =>
    cases left with
    | nil =>
      exact congrArg some (d.goto_system hc run (.body (setup.entry s.executions args))
        (s := { s with snapshot := s.snapshot.reset, executions := s.executions + 1 }))
    | cons library left => rfl
  | finalizing left outcome =>
    cases left with
    | nil => exact congrArg some (hgoto (.classifying outcome))
    | cons library left => rfl
  | ending result left =>
    cases left with
    | nil => exact congrArg some (hgoto .done)
    | cons o left => rfl
  -- here the step depends on a test, which the shift does not change
  | holding hold =>
    have hheld : (d.system left s).control.isHeld (d.hold hold).generation =
        s.control.isHeld hold.generation :=
      d.isHeld_control left.abandoned s.control hold.generation
    simp only [System.advance, point, hheld]
    split
    · exact congrArg some (hgoto (.held hold))
    · exact congrArg some (hgoto (.announcing .resumed (.proceed (hold.next
        (if s.control.interrupted then .error .interrupted else .ok ())))))
  | requesting ask =>
    refine congrArg some (Eq.trans ?_ (d.goto_system hc run (.asking ask s.input)
      (s := { s with handles := s.handles ++ [ask.ticket] })))
    simp [system, System.goto, point, Shift.ask]
  | checking ask =>
    have hawaits : (d.system left s).control.awaitsAnswer = s.control.awaitsAnswer :=
      d.awaitsAnswer_control left.abandoned s.control (h rfl)
    simp only [System.advance, point, hawaits]
    split_ifs
    · exact congrArg some (hgoto (.announcing .paused (.awaitAnswer ask)))
    · exact congrArg some (d.takeAnswer_system hc (h rfl) ask)
  | awaiting ask =>
    have hawaits : (d.system left s).control.awaitsAnswer = s.control.awaitsAnswer :=
      d.awaitsAnswer_control left.abandoned s.control (h rfl)
    simp only [System.advance, point, hawaits]
    split_ifs
    · exact congrArg some (hgoto (.awaitingAsleep ask))
    · exact congrArg some (d.takeAnswer_system hc (h rfl) ask)
  | closingRead exit =>
    exact congrArg some (d.goto_system hc run (.announcing .resumed (.leaveRead exit))
      (s := { s with control := s.control.closeRead }))
  | classifying outcome =>
    simp only [System.advance, point]
    rw [d.ofOutcome_clock, show (d.system left s).control.position = s.control.position from rfl]
    cases RunResult.ofOutcome setup.translators setup.info s.control.position elapsed outcome with
    | ok result => exact congrArg some (hgoto (.draining result))
    | error payload => exact congrArg some (hgoto (.recovering payload.message))
  | draining result =>
    exact congrArg some (d.goto_system hc run (.finishing result s.roster.members)
      (s := { s with roster := Roster.empty }))
  | finishing result watchers =>
    exact congrArg some (d.goto_system hc run (.ending result watchers)
      (s := { s with control := s.control.finish }))
  | queued => exact congrArg some (hgoto (.announcing .started .libraries))
  | announcing notice after =>
    exact congrArg some (hgoto (.telling notice s.roster.members after))
  | unwinding message =>
    exact congrArg some (hgoto (.finalizing setup.libraries (.error (.panic message))))
  | recovering message =>
    exact congrArg some
      (hgoto (.draining (RunResult.ofPanic message s.control.position elapsed)))
  | _ => rfl

theorem call_system (hc : d.Clear left) (hn : Numbered left.abandoned s.control) (c : Call κ) :
    (d.system left s).call setup (d.runs + run) c = d.system left (s.call setup run c) := by
  have hgoto (p : Point κ) := d.goto_system (s := s) hc run p
  cases c with
  | pausePoint position next =>
    have hreach := d.reach_control left.abandoned s.control position
    simp only [System.call]
    rw [control_system, hreach]
    refine Eq.trans ?_ (d.goto_system (s := { s with control := (s.control.reach position).1 })
      hc run _)
    cases (s.control.reach position).2 <;> rfl
  | read type next =>
    have hopen := d.openRead_control left.abandoned s.control hn
    simp only [System.call]
    rw [control_system, hopen]
    cases s.control.openRead with
    | none => exact hgoto (.body _)
    | some c =>
      exact d.goto_system (s := { s with control := c }) hc run
        (.requesting ⟨c.read.ticket, type, next⟩)
  | change change next =>
    rw [System.call_change, System.call_change,
      show (d.system left s).snapshot = s.snapshot from rfl]
    refine Eq.trans ?_
      (d.goto_system (s := { s with snapshot := change.apply s.snapshot }) hc run _)
    cases change.overflows s.snapshot <;> rfl
  | finish outcome => exact hgoto (.finalizing setup.libraries outcome)
  | panic payload => exact hgoto (.finalizing setup.libraries (.error (.panic payload.message)))
  | write value next => exact hgoto (.writing value s.output next)
  | clear next => exact hgoto (.clearing s.output next)
  | _ => exact hgoto (.body _)

theorem returned_system (hc : d.Clear left) (q : Point κ) :
    (d.system left s).returned (d.runs + run) (d.point q) =
      (s.returned run q).map (d.system left) := by
  have hgoto (p : Point κ) := congrArg some (d.goto_system (s := s) hc run p)
  cases q with
  | telling notice queue after =>
    cases queue with
    | nil => rfl
    | cons o queue => exact hgoto (.telling notice queue after)
  | initializing left =>
    cases left with
    | nil => rfl
    | cons library left => exact hgoto (.initializing left)
  | finalizing left outcome =>
    cases left with
    | nil => rfl
    | cons library left => exact hgoto (.finalizing left outcome)
  | ending result queue =>
    cases queue with
    | nil => rfl
    | cons o queue => exact hgoto (.ending result queue)
  | asking ask provider => exact hgoto (.checking ask)
  | writing value sink next | clearing sink next => exact hgoto (.body _)
  | _ => rfl

theorem libraryFailed_system (hc : d.Clear left) (error : LibraryError) (q : Point κ) :
    (d.system left s).libraryFailed setup (d.runs + run) error (d.point q) =
      (s.libraryFailed setup run error q).map (d.system left) := by
  have hgoto (p : Point κ) := congrArg some (d.goto_system (s := s) hc run p)
  cases q with
  | initializing left =>
    cases left with
    | nil => rfl
    | cons library left => exact hgoto (.finalizing setup.libraries (.error (.library error)))
  | finalizing left outcome =>
    cases left with
    | nil => rfl
    | cons library left => exact hgoto (.finalizing left outcome)
  | _ => rfl

theorem sinkFailed_system (hc : d.Clear left) (error : OutputError) (q : Point κ) :
    (d.system left s).sinkFailed (d.runs + run) error (d.point q) =
      (s.sinkFailed run error q).map (d.system left) := by
  have hgoto (p : Point κ) := congrArg some (d.goto_system (s := s) hc run p)
  cases q with
  | writing value sink next | clearing sink next => exact hgoto (.body _)
  | _ => rfl

theorem panicked_system (hc : d.Clear left) (payload : Payload) (q : Point κ) :
    (d.system left s).panicked setup (d.runs + run) payload (d.point q) =
      (s.panicked setup run payload q).map (d.system left) := by
  have hgoto (p : Point κ) := congrArg some (d.goto_system (s := s) hc run p)
  have hunwinding := hgoto (.unwinding payload.message)
  have hclosing := hgoto (.closingRead (.unwind payload.message))
  cases q with
  | telling notice queue after =>
    cases queue with
    | nil => rfl
    | cons o queue =>
      cases after with
      | libraries => exact hgoto (.recovering payload.message)
      | awaitAnswer ask => exact hclosing
      | leaveRead exit =>
        cases exit with
        | answer state => exact hunwinding
        | unwind message => rfl
      | _ => exact hunwinding
  | initializing left =>
    cases left with
    | nil => rfl
    | cons library left => exact hgoto (.finalizing setup.libraries (.error (.library _)))
  | finalizing left outcome =>
    cases left with
    | nil => rfl
    | cons library left => exact hgoto (.finalizing left outcome)
  | ending result queue =>
    cases queue with
    | nil => rfl
    | cons o queue => exact hgoto (.ending result queue)
  | asking ask provider => exact hclosing
  | writing value sink next | clearing sink next => exact hunwinding
  | _ => rfl

theorem caught_system (hc : d.Clear left) (state : κ) (q : Point κ) :
    (d.system left s).caught (d.runs + run) state (d.point q) =
      (s.caught run state q).map (d.system left) := by
  cases q with
  | unwinding message => exact congrArg some (d.goto_system hc run (.body state))
  | _ => rfl

/-- **A worker takes the same turn in other numbers.** -/
theorem turn_system {task : Task κ} {l : Label κ} (hc : d.Clear left)
    (hn : Numbered left.abandoned s.control)
    (h : task.point.phase.isReading = true → s.control.read.awaiting = true) :
    (d.system left s).turn setup (d.task task) (d.label l) =
      (s.turn setup task l).map (d.system left) := by
  obtain ⟨args, q⟩ := task
  cases l with
  | advance run elapsed =>
    exact d.advance_system hc (fun hreading flag => hn.current flag (h hreading)) args elapsed
  | call run c =>
    cases q with
    | body state => exact congrArg some (d.call_system hc hn c)
    | _ => rfl
  | returned run => exact d.returned_system hc q
  | libraryFailed run error => exact d.libraryFailed_system hc error q
  | sinkFailed run error => exact d.sinkFailed_system hc error q
  | panicked run payload => exact d.panicked_system hc payload q
  | caught run state => exact d.caught_system hc state q
  | act t a | complete t | wake run => rfl

end Turns

end Shift

/-! ## Steps -/

/-- The thread that makes a call or does its second step. -/
def Label.caller? : Label κ → Option Thread
  | .act t _ | .complete t => some t
  | _ => none

namespace Shift

variable (d : Shift) {left : Leftover κ} {setup : Setup κ} {s : System κ} {l : Label κ}

/-- The step is of no call that is late and settles no handle that is left over. -/
structure Apart (d : Shift) (left : Leftover κ) (l : Label κ) : Prop where
  caller : ∀ t, l.caller? = some t → ∀ p ∈ left.late, p.1 ≠ d.thread t
  ticket : ∀ t k answer, l = .act t (.settle k answer) → d.tickets + k ∉ left.stale

theorem worker?_label (l : Label κ) :
    (d.label l).worker? = l.worker?.map fun run => d.runs + run := by
  cases l <;> rfl

/-- **A system takes the same steps in other numbers and after earlier runs.** -/
theorem step_system (hc : d.Clear left) (ho : OpenRead s) (hn : Numbered left.abandoned s.control)
    (hl : d.Apart left l) :
    (d.system left s).step setup (d.label l) = (s.step setup l).map (d.system left) := by
  refine System.step_eq_map rfl fun ha ha' => ?_
  cases hw : l.worker? with
  | some run =>
    have hw' : (d.label l).worker? = some (d.runs + run) := by rw [d.worker?_label, hw]; rfl
    rw [System.step_turn hw ha, System.step_turn hw' ha', d.freeTask?_system hc,
      Option.bind_map, Option.map_bind]
    refine Option.bind_congr fun task htask => d.turn_system hc hn fun hreading => ?_
    have hphase := System.phase?_eq_some_iff.2
      ⟨task, (System.freeTask?_eq_some_iff.1 htask).2, rfl⟩
    exact ho.awaiting hphase hreading
  | none =>
    cases l with
    | act t a =>
      have hact := d.act_system (t := t) (fun k answer h => hl.ticket t k answer (h ▸ rfl)) hn
      rw [System.step_act ha, label, System.step_act ha',
        d.mayAct_system hc (hl.caller t rfl), hact]
      split_ifs <;> rfl
    | complete t =>
      rw [System.step_complete ha, label, System.step_complete ha',
        d.complete_system hc (hl.caller t rfl)]
    | wake run =>
      rw [System.step_wakeUp ha, label, System.step_wakeUp ha', d.getElem?_tasks hc,
        Option.bind_map, Option.map_bind]
      refine Option.bind_congr fun task _ => ?_
      have hasleep : (d.task task).point.isAsleep = task.point.isAsleep :=
        d.isAsleep_point task.point
      have hwake : (d.task task).point.wake = d.point task.point.wake := d.wake_point task.point
      simp only [Function.comp_apply, hasleep, hwake, d.goto_system hc]
      split_ifs <;> rfl
    | _ => cases hw

end Shift

/-! ## What every step keeps -/

section Sound

variable {setup : Setup κ} {s s' : System κ} {l : Label κ}

/-- What every step keeps of a supervisor. -/
structure Sound (s : System κ) : Prop where
  orderly : Orderly s
  openRead : OpenRead s

theorem Sound.step (hs : Sound s) (h : s.step setup l = some s') : Sound s' :=
  ⟨hs.orderly.step h, .step hs.orderly hs.openRead h⟩

theorem Sound.initial (directory : String) : Sound (System.initial setup directory) where
  orderly := .initial directory
  openRead := .initial directory

theorem Sound.steps {labels : List (Label κ)} (hs : Sound s)
    (h : s.steps setup labels = some s') : Sound s' :=
  (trail_of_steps h).invariant hs Sound.step

theorem Reachable.sound (hr : Reachable setup s) : Sound s :=
  hr.invariant Sound.initial Sound.step

end Sound

end RunControl
