import RunControl.Proofs.Grammar
import RunControl.Proofs.Pause

/-!
# The reference stepper

A stepper goes through the positions that a program reports. From where it stands it goes to the
next position at which it stops, and there it waits for the next instruction. The supervisor does
the same, as long as nobody interferes but in a pause: what it has still to do is what the stepper
has still to do.

* `Stance`, `Instruction`, **`stops`**: the stepper;
* `steering`, `visited`, `pauses`: what a sequence of steps says to the stepper, and where the run
  has paused;
* `Moment.Steady`: nobody interferes in the step;
* `OnCourse`, **`OnCourse.step`**: the supervisor keeps to the stepper.
-/

namespace RunControl

variable {κ : Type}

/-! ## The stepper -/

/-- What a stepper goes by; the lines with a breakpoint may be outside the program. -/
structure Stance where
  mode : DebugMode
  lines : List UInt32

/-- What a controller does in a pause: it may replace the breakpoints, and it resumes. -/
structure Instruction where
  lines? : Option (List UInt32)
  mode : DebugMode

namespace Stance

/-- The stance after an instruction. -/
def after (stance : Stance) (i : Instruction) : Stance := ⟨i.mode, i.lines?.getD stance.lines⟩

/-- The stance after all of the instructions. -/
def current (stance : Stance) (given : List Instruction) : Stance := given.foldl after stance

/-- The stepper stops at the line, in a program of `count` lines. -/
def stopsAt (count : ℕ) (stance : Stance) (line : UInt32) : Bool :=
  match stance.mode with
  | .stepOver | .stepInto => true
  | .breakpoint => line.toNat < count && line ∈ stance.lines
  | .stopped => false

end Stance

/-- The positions at which the stepper stops, given the instructions for the stops. -/
def stops (count : ℕ) : Stance → List Instruction → List Position → List Position
  | _, _, [] => []
  | stance, instructions, position :: rest =>
    if stance.stopsAt count position.line then
      position :: match instructions with
        | [] => []
        | i :: instructions => stops count (stance.after i) instructions rest
    else stops count stance instructions rest

/-- The stops after one, from the positions after it. -/
def stopsAfter (count : ℕ) (stance : Stance) (instructions : List Instruction)
    (rest : List Position) : List Position :=
  match instructions with
  | [] => []
  | i :: instructions => stops count (stance.after i) instructions rest

@[simp] theorem stops_nil (count : ℕ) (stance : Stance) (instructions : List Instruction) :
    stops count stance instructions [] = [] := by
  cases instructions <;> rfl

theorem stops_cons (count : ℕ) (stance : Stance) (instructions : List Instruction)
    (position : Position) (rest : List Position) :
    stops count stance instructions (position :: rest) =
      if stance.stopsAt count position.line then
        position :: stopsAfter count stance instructions rest
      else stops count stance instructions rest := by
  cases instructions <;> rfl

/-! ## What a sequence of steps says -/

/-- The worker of the run is in a pause, and has not been resumed. -/
def System.isPaused (run : RunId) (s : System κ) : Bool :=
  match s.phase? run with
  | some (.pausing hold) => s.control.isHeld hold.generation
  | _ => false

/-- The breakpoints are replaced, or a resume is accepted. -/
def Moment.steers (x : Moment κ) : Bool :=
  match x.label with
  | .act _ (.activate _) => true
  | _ => x.resumes

/-- The instructions of a sequence of steps, and the lines activated since the last one. -/
def steering : List (Moment κ) → List Instruction × Option (List UInt32)
  | [] => ([], none)
  | x :: m => match x.label with
    | .act _ (.activate lines) => ((steering m).1, some lines)
    | .act _ (.resume mode) =>
      if x.resumes then ((steering m).1 ++ [⟨(steering m).2, mode⟩], none) else steering m
    | _ => steering m

/-- The instructions of a sequence of steps. -/
def instructions (m : List (Moment κ)) : List Instruction := (steering m).1

/-- The positions that a run has reported, in order. -/
def visited (run : RunId) (m : List (Moment κ)) : List Position :=
  (m.filterMap (Moment.report? run)).reverse

/-- The position of a pause. -/
def Occasion.position? : Occasion → Option Position
  | pause position => some position
  | read _ => none

/-- The positions at which a run has paused, in order. -/
def pauses (run : RunId) (m : List (Moment κ)) : List Position :=
  (occasions run m).filterMap Occasion.position?

/-- Something goes wrong in a run: code around the supervisor fails, a read is not answered by a
value, or there is no room for a change of the snapshot. -/
def Moment.fails (run : RunId) (x : Moment κ) : Bool :=
  match x.label with
  | .libraryFailed r _ | .sinkFailed r _ | .panicked r _ => r = run
  | .call r (.change change _) => r = run && change.overflows x.state.snapshot
  | .advance r _ => r = run && match x.state.point? run with
    | some (.checking ask) | some (.awaiting ask) =>
      !x.state.control.awaitsAnswer && !(x.state.control.takeAnswer ask.type).2.toBool
    | _ => false
  | _ => false

/-- A step of a run in which everything goes well, the body does what it does next, and nobody
interferes but in a pause. -/
structure Moment.Steady (next : κ → Call κ) (run : RunId) (x : Moment κ) : Prop where
  follows : ∀ c state, x.label = .call run c → x.state.point? run = some (.body state) →
    c = next state
  smooth : x.fails run = false
  starts : x.starts = false
  interrupts : x.interrupts = false
  steers : x.steers = true → x.state.isPaused run = true

variable {setup : Setup κ} {s s' : System κ} {m : List (Moment κ)} {l : Label κ} {run : RunId}
  {q q' : Point κ} {x : Moment κ} {next : κ → Call κ} {count : ℕ} {stance : Stance}

theorem visited_cons : visited run (x :: m) = visited run m ++ (x.report? run).toList :=
  reverse_filterMap_cons _ x m

theorem filterMap_position?_wait (bs : List Occasion) :
    (bs.modifyHead Occasion.wait).filterMap Occasion.position? =
      bs.filterMap Occasion.position? := by
  cases bs with
  | nil => rfl
  | cons b bs => cases b <;> rfl

theorem pauses_cons : pauses run (x :: m) =
    pauses run m ++ ((x.occasion? run).bind Occasion.position?).toList := by
  have hrecord : (x.record run (m.foldr (Moment.record run) [])).filterMap Occasion.position? =
      ((x.occasion? run).bind Occasion.position?).toList ++
        (m.foldr (Moment.record run) []).filterMap Occasion.position? := by
    rw [Moment.record, List.filterMap_append]
    congr 1
    · cases x.occasion? run with
      | none => rfl
      | some b => cases b <;> rfl
    · split_ifs
      · exact filterMap_position?_wait _
      · rfl
  rw [pauses, occasions, List.filterMap_reverse, List.foldr_cons, hrecord, List.reverse_append,
    pauses, occasions, List.filterMap_reverse]
  cases (x.occasion? run).bind Occasion.position? <;> rfl

theorem steering_of_not_act (hl : ∀ t a, l ≠ .act t a) : steering (⟨s, l⟩ :: m) = steering m := by
  cases l with
  | act t a => exact absurd rfl (hl t a)
  | _ => rfl

theorem Moment.report?_of_not_call (hl : ∀ c, l ≠ .call run c) :
    (Moment.mk s l).report? run = none := by
  unfold report?
  split_ifs with hw
  · cases l with
    | call r c => exact absurd (Option.some.inj hw ▸ rfl) (hl c)
    | _ => rfl
  · rfl

theorem Orderly.isOver_of_ne {r : RunId} {f : Phase κ} (ho : Orderly s)
    (hlatest : s.tasks.length + s.owed = run + 1) (hr : r ≠ run) (hf : s.phase? r = some f) :
    f.isOver = true := by
  by_contra hlive
  have hlive : f.isOver = false := by simpa using hlive
  have hlength := ho.latest hf hlive
  rw [ho.owed_eq_zero hf hlive, Nat.add_zero] at hlatest
  exact hr (Nat.succ.inj (hlength.trans hlatest))

/-! ## Pauses -/

/-- The pause in which the worker is. -/
def Phase.hold? : Phase κ → Option (Hold κ)
  | pausing hold => some hold
  | _ => none

/-- A worker in this phase is in a pause and has not been resumed. -/
def Phase.isHeld (c : Control) (f : Phase κ) : Bool :=
  f.hold?.any fun hold => c.isHeld hold.generation

theorem Phase.isHeld_of_isOver {c : Control} {f : Phase κ} (h : f.isOver = true) :
    f.isHeld c = false := by
  cases f <;> first | rfl | cases h

theorem System.isPaused_eq (s : System κ) (run : RunId) :
    s.isPaused run = (s.phase? run).any (Phase.isHeld s.control) := by
  unfold isPaused
  cases s.phase? run with
  | none => rfl
  | some f => cases f <;> rfl

/-- What the stepper reads in the control state. -/
structure Control.Alike (c c' : Control) : Prop where
  mode : c'.mode = c.mode
  breakpoints : c'.breakpoints = c.breakpoints
  position : c'.position = c.position
  generation : c'.generation = c.generation
  interrupted : c'.interrupted = c.interrupted

theorem Control.Alike.isHeld {c c' : Control} (h : c.Alike c') (f : Phase κ) :
    f.isHeld c' = f.isHeld c := by
  unfold Phase.isHeld Control.isHeld
  rw [h.generation, h.interrupted]

theorem Phase.isHeld_resume {c c' : Control} {mode : DebugMode} {f : Phase κ}
    (hc : c.resume mode = some c') (h : f.isHeld c = true) : f.isHeld c' = false := by
  unfold Phase.isHeld at h ⊢
  cases hf : f.hold? with
  | none => rfl
  | some hold =>
    rw [hf] at h
    exact Control.isHeld_of_resume hc h

section Turn

variable {c c' : Control} {hs hs' : List UInt64}

theorem Turn.alike (h : Turn run l c hs q c' hs' q') (hl : ∀ c, l ≠ .call run c) : c.Alike c' := by
  cases h with
  | report | pause | openRead => exact absurd rfl (hl _)
  | @take _ _ _ ask =>
    unfold Control.takeAnswer
    split_ifs <;> exact ⟨rfl, rfl, rfl, rfl, rfl⟩
  | _ => exact ⟨rfl, rfl, rfl, rfl, rfl⟩

theorem Turn.isHeld (h : Turn run l c hs q c' hs' q') (hl : ∀ c, l ≠ .call run c)
    (hpanic : ∀ payload, l ≠ .panicked run payload) :
    q'.phase.isHeld c' = q.phase.isHeld c := by
  rw [(h.alike hl).isHeld]
  cases h with
  | pass hp =>
    have hmoves := hp.moves
    generalize q.phase = f, q'.phase = f' at hmoves
    cases hmoves with
    | tear => exact absurd rfl (hpanic _)
    | _ => rfl
  | report | pause | openRead => exact absurd rfl (hl _)
  | park => rw [Point.phase_sleep]
  | release hb => exact hb.symm
  | take hp => rcases hp with rfl | rfl <;> rfl
  | unwind hp => rw [hp]; rfl
  | @close _ _ exit => cases exit <;> rfl
  | _ => rfl

end Turn

/-! ## On the course of the stepper -/

/-- The supervisor is on the course of the stepper that began with the stance: the latest run has
been given the instructions, and new breakpoints since, which only a paused one is; it has reported
the positions `seen` and paused at `stopped`. There is one instruction for each pause but the one
that goes on, and what the stepper has still to do depends on where the supervisor is. -/
structure OnCourse (count : ℕ) (stance : Stance) (run : RunId)
    (given : List Instruction × Option (List UInt32)) (seen stopped : List Position)
    (s : System κ) : Prop where
  latest : s.tasks.length + s.owed = run + 1
  interrupted : s.control.interrupted = false
  mode : s.control.mode = (stance.current given.1).mode
  size : s.control.breakpoints.lineCount = count
  active : ∀ line, s.control.breakpoints.isActive line =
    (line.toNat < count && line ∈ given.2.getD (stance.current given.1).lines)
  position : s.control.position = seen.getLastD .unknown
  resumed : s.isPaused run = false → given.2 = none
  here : s.isPaused run = true → stopped.getLast? = some s.control.position
  length : stopped.length = given.1.length + if s.isPaused run then 1 else 0
  ahead : ∀ more rest, stops count stance (given.1 ++ more) (seen ++ rest) =
    stopped ++ if s.isPaused run then stopsAfter count (stance.current given.1) more rest
      else stops count (stance.current given.1) more rest

namespace OnCourse

variable {given : List Instruction × Option (List UInt32)} {seen stopped : List Position}

theorem canPause (h : OnCourse count stance run given seen stopped s)
    (hpaused : s.isPaused run = false) (line : UInt32) :
    s.control.canPause line = (stance.current given.1).stopsAt count line := by
  have hactive := h.active line
  rw [h.resumed hpaused, Option.getD_none] at hactive
  unfold Control.canPause Breakpoints.shouldPause Stance.stopsAt
  rw [h.mode]
  cases (stance.current given.1).mode with
  | breakpoint => exact hactive
  | _ => rfl

theorem keep (h : OnCourse count stance run given seen stopped s)
    (hcontrol : s.control.Alike s'.control) (hpaused : s'.isPaused run = s.isPaused run)
    (hlatest : s'.tasks.length + s'.owed = run + 1) :
    OnCourse count stance run given seen stopped s' where
  latest := hlatest
  interrupted := hcontrol.interrupted.trans h.interrupted
  mode := hcontrol.mode.trans h.mode
  size := (congrArg Breakpoints.lineCount hcontrol.breakpoints).trans h.size
  active line := by rw [hcontrol.breakpoints, h.active]
  position := hcontrol.position.trans h.position
  resumed hp := h.resumed (hpaused ▸ hp)
  here hp := by rw [hcontrol.position, h.here (hpaused ▸ hp)]
  length := by rw [hpaused, h.length]
  ahead more rest := by rw [hpaused, h.ahead]

theorem pass {position : Position} (h : OnCourse count stance run given seen stopped s)
    (hpaused : s.isPaused run = false) (hpass : s.control.canPause position.line = false)
    (hcontrol : s'.control = { s.control with position }) (hpaused' : s'.isPaused run = false)
    (hlatest : s'.tasks.length + s'.owed = run + 1) :
    OnCourse count stance run given (seen ++ [position]) stopped s' := by
  have hstops : (stance.current given.1).stopsAt count position.line = false :=
    (h.canPause hpaused position.line).symm.trans hpass
  refine ⟨hlatest, by rw [hcontrol, h.interrupted], by rw [hcontrol, h.mode],
    by rw [hcontrol, h.size], fun line => by rw [hcontrol, h.active], ?_,
    fun _ => h.resumed hpaused, fun hp => ?_, ?_, fun more rest => ?_⟩
  · rw [hcontrol, List.getLastD_concat]
  · rw [hpaused'] at hp
    cases hp
  · rw [h.length, hpaused, hpaused']
  · rw [List.append_assoc, List.singleton_append, h.ahead, hpaused, hpaused', stops_cons, hstops]
    rfl

theorem pause {position : Position} (h : OnCourse count stance run given seen stopped s)
    (hpaused : s.isPaused run = false) (hpause : s.control.canPause position.line = true)
    (hcontrol : s'.control = { s.control with position }) (hpaused' : s'.isPaused run = true)
    (hlatest : s'.tasks.length + s'.owed = run + 1) :
    OnCourse count stance run given (seen ++ [position]) (stopped ++ [position]) s' := by
  have hstops : (stance.current given.1).stopsAt count position.line = true :=
    (h.canPause hpaused position.line).symm.trans hpause
  refine ⟨hlatest, by rw [hcontrol, h.interrupted], by rw [hcontrol, h.mode],
    by rw [hcontrol, h.size], fun line => by rw [hcontrol, h.active], ?_, fun hp => ?_,
    fun _ => by rw [hcontrol, List.getLast?_concat], ?_, fun more rest => ?_⟩
  · rw [hcontrol, List.getLastD_concat]
  · rw [hpaused'] at hp
    cases hp
  · rw [List.length_append, h.length, hpaused, hpaused']
    rfl
  · rw [List.append_assoc, List.singleton_append, h.ahead, hpaused, hpaused', stops_cons, hstops,
      List.append_assoc]
    rfl

theorem activate {lines : List UInt32} (h : OnCourse count stance run given seen stopped s)
    (hpaused : s.isPaused run = true) (hcontrol : s'.control = s.control.activate lines)
    (hpaused' : s'.isPaused run = true) (hlatest : s'.tasks.length + s'.owed = run + 1) :
    OnCourse count stance run (given.1, some lines) seen stopped s' := by
  refine ⟨hlatest, by rw [hcontrol]; exact h.interrupted, by rw [hcontrol]; exact h.mode,
    by rw [hcontrol]; exact h.size, fun line => ?_, by rw [hcontrol]; exact h.position,
    fun hp => ?_, fun _ => by rw [hcontrol]; exact h.here hpaused,
    by rw [h.length, hpaused, hpaused'], fun more rest => by rw [h.ahead, hpaused, hpaused']⟩
  · rw [hcontrol, Option.getD_some, ← h.size]
    simp [Control.activate, Breakpoints.activate, Breakpoints.isActive, mem_ascending,
      Bool.and_comm]
  · rw [hpaused'] at hp
    cases hp

theorem resume {mode : DebugMode} (h : OnCourse count stance run given seen stopped s)
    (hpaused : s.isPaused run = true) (hcontrol : s.control.resume mode = some s'.control)
    (hpaused' : s'.isPaused run = false) (hlatest : s'.tasks.length + s'.owed = run + 1) :
    OnCourse count stance run (given.1 ++ [⟨given.2, mode⟩], none) seen stopped s' := by
  have hcurrent : stance.current (given.1 ++ [⟨given.2, mode⟩]) =
      (stance.current given.1).after ⟨given.2, mode⟩ := by
    rw [Stance.current, List.foldl_append]
    rfl
  obtain ⟨-, hcontrol⟩ := Control.resume_eq_some_iff.1 hcontrol
  refine ⟨hlatest, by rw [hcontrol]; exact h.interrupted, by rw [hcontrol, hcurrent]; rfl,
    by rw [hcontrol]; exact h.size, fun line => ?_, by rw [hcontrol]; exact h.position,
    fun _ => rfl, fun hp => ?_, ?_, fun more rest => ?_⟩
  · rw [hcontrol, hcurrent]
    exact h.active line
  · rw [hpaused'] at hp
    cases hp
  · rw [h.length, hpaused, hpaused', List.length_append]
    rfl
  · rw [List.append_assoc, List.singleton_append, h.ahead, hpaused, hpaused', hcurrent]
    rfl

end OnCourse

/-! ## What the steps of a steady run do -/

section Steps

theorem Control.Alike.refl (c : Control) : c.Alike c := ⟨rfl, rfl, rfl, rfl, rfl⟩

/-- A call that neither steers, starts nor interrupts is of no account to the stepper. -/
theorem System.Acts.alike {t : Thread} {a : Action} (h : s.Acts t a s')
    (hsteers : (Moment.mk s (.act t a)).steers = false)
    (hstarts : (Moment.mk s (.act t a)).starts = false)
    (hinterrupts : (Moment.mk s (.act t a)).interrupts = false) :
    s.control.Alike s'.control := by
  cases h with
  | start hc => simp [Moment.starts, hc] at hstarts
  | resume hc => simp [Moment.steers, Moment.resumes, hc] at hsteers
  | interrupt hc => simp [Moment.interrupts, hc] at hinterrupts
  | activate => cases hsteers
  | settle _ hc =>
    obtain ⟨-, rfl⟩ := Control.settle_eq_some_iff.1 hc
    exact ⟨rfl, rfl, rfl, rfl, rfl⟩
  | _ => exact .refl s.control

/-- A call of the body that reports no position is of no account to the stepper. -/
theorem System.alike_call {c : Call κ} {state : κ} (hq : s.point? run = some (.body state))
    (hc : ∀ position next, c ≠ .pausePoint position next) :
    s.control.Alike (s.call setup run c).control ∧ (s.call setup run c).isPaused run = false ∧
      (s.occasion? c).bind Occasion.position? = none ∧ (Label.call run c).report? = none := by
  obtain ⟨s₁, q, hq', he, hcalled⟩ := point?_call setup hq c
  have hpaused (hheld : q.phase.hold? = none) : (s.call setup run c).isPaused run = false := by
    rw [isPaused_eq, phase?, hq', Option.map_some, Option.any_some, Phase.isHeld, hheld,
      Option.any_none]
  have hcontrol : (s.call setup run c).control = s₁.control := by
    rw [he]
    rfl
  rw [hcontrol]
  cases hcalled with
  | report | pause => exact absurd rfl (hc _ _)
  | openRead ho =>
    obtain ⟨-, rfl⟩ := Control.openRead_eq_some_iff.1 ho
    exact ⟨⟨rfl, rfl, rfl, rfl, rfl⟩, hpaused rfl, by simp [occasion?, ho, Occasion.position?], rfl⟩
  | refuseRead ho => exact ⟨.refl _, hpaused rfl, by simp [occasion?, ho], rfl⟩
  | _ => exact ⟨.refl _, hpaused rfl, rfl, rfl⟩

/-- Outside its own turns and the calls of others, nothing happens to a run. -/
theorem System.kept_of_other (ho : Orderly s) (hlatest : s.tasks.length + s.owed = run + 1)
    (hl : l.worker? ≠ some run) (hact : ∀ t a, l ≠ .act t a) (hs : s.step setup l = some s') :
    s'.control = s.control ∧ s'.isPaused run = s.isPaused run := by
  have hstep := stepped_of_step hs
  have hcontrol : s'.control = s.control := by
    cases hstep with
    | act => exact absurd rfl (hact _ _)
    | notify _ hc | submit _ hc | wake _ _ hc => exact hc
    | @turn r _ task q hr ht =>
      refine (ht.turn.of_isOver (ho.isOver_of_ne hlatest ?_ ht.phase?.1)).1
      rintro rfl
      exact hl hr
  refine ⟨hcontrol, ?_⟩
  rw [isPaused_eq, isPaused_eq, hcontrol]
  obtain he | ⟨-, hnone, hbusy⟩ := hstep.phase?_eq hl
  · rw [he]
  · rw [hnone, hbusy]
    rfl

theorem System.isPaused_act (t : Thread) (a : Action) :
    (s.act t a).isPaused run = (s.phase? run).any (Phase.isHeld (s.act t a).control) := by
  obtain ⟨-, -, htasks, -⟩ := (s.acts_act t a).acted
  rw [isPaused_eq, phase?, point?, htasks, phase?, point?]

end Steps

namespace OnCourse

theorem reach {given : List Instruction × Option (List UInt32)} {seen stopped : List Position}
    {position : Position} {next : Except Fault Unit → κ}
    (h : OnCourse count stance run given seen stopped s) (hpaused : s.isPaused run = false)
    (hs : s.step setup (.call run (.pausePoint position next)) = some s')
    (hlatest : s'.tasks.length + s'.owed = run + 1) :
    OnCourse count stance run given (seen ++ [position])
      (stopped ++ ((s.occasion? (.pausePoint position next)).bind Occasion.position?).toList)
      s' := by
  obtain ⟨-, hcontrol, hpoint⟩ := call_pausePoint hs
  cases hpause : s.control.canPause position.line with
  | true =>
    have hoccasion : s.occasion? (.pausePoint position next) = some (.pause position) := by
      simp [System.occasion?, Control.reach, h.interrupted, hpause]
    have hpaused' : s'.isPaused run = true := by
      rw [System.isPaused_eq, System.phase?, hpoint, hcontrol, h.interrupted, hpause]
      simp [Point.phase, AfterNotice.phase, Phase.isHeld, Phase.hold?, Control.isHeld,
        h.interrupted]
    rw [hoccasion]
    exact h.pause hpaused hpause hcontrol hpaused' hlatest
  | false =>
    have hoccasion : s.occasion? (.pausePoint position next) = none := by
      simp [System.occasion?, Control.reach, h.interrupted, hpause]
    have hpaused' : s'.isPaused run = false := by
      rw [System.isPaused_eq, System.phase?, hpoint, hpause, Bool.and_false]
      rfl
    rw [hoccasion, Option.bind_none, Option.toList_none, List.append_nil]
    exact h.pass hpaused hpause hcontrol hpaused' hlatest

theorem act {t : Thread} {a : Action}
    (h : OnCourse count stance run (steering m) (visited run m) (pauses run m) s)
    (hsteers : (Moment.mk s (.act t a)).steers = true → s.isPaused run = true)
    (hstarts : (Moment.mk s (.act t a)).starts = false)
    (hinterrupts : (Moment.mk s (.act t a)).interrupts = false)
    (hlatest : (s.act t a).tasks.length + (s.act t a).owed = run + 1) :
    OnCourse count stance run (steering (⟨s, .act t a⟩ :: m)) (visited run m) (pauses run m)
      (s.act t a) := by
  have hpaused : (s.act t a).isPaused run = (s.phase? run).any (Phase.isHeld (s.act t a).control) :=
    s.isPaused_act t a
  -- what steers nothing changes no breakpoint and no mode; what steers comes in a pause
  cases hst : (Moment.mk s (.act t a)).steers with
  | false =>
    have halike := (s.acts_act t a).alike hst hstarts hinterrupts
    have hsteering : steering (⟨s, .act t a⟩ :: m) = steering m := by
      cases a with
      | activate lines => cases hst
      | resume mode => exact if_neg (Bool.not_eq_true _ ▸ hst)
      | _ => rfl
    rw [hsteering]
    refine h.keep halike ?_ hlatest
    rw [hpaused, System.isPaused_eq]
    exact congrArg (fun f => (s.phase? run).any f) (funext halike.isHeld)
  | true =>
    have hbefore := hsteers hst
    cases a with
    | activate lines =>
      refine h.activate hbefore rfl ?_ hlatest
      rw [hpaused]
      rw [System.isPaused_eq] at hbefore
      exact hbefore
    | resume mode =>
      obtain ⟨c, hc⟩ := Option.isSome_iff_exists.1 hst
      have hcontrol : (s.act t (.resume mode)).control = c := by
        simp [System.act, hc, System.promise]
      have hsteering : steering (⟨s, .act t (.resume mode)⟩ :: m) =
          ((steering m).1 ++ [⟨(steering m).2, mode⟩], none) := if_pos hst
      rw [hsteering]
      refine h.resume hbefore (hc.trans (congrArg some hcontrol.symm)) ?_ hlatest
      rw [hpaused, hcontrol]
      rw [System.isPaused_eq] at hbefore
      cases hf : s.phase? run with
      | none => rfl
      | some f =>
        rw [hf] at hbefore
        exact Phase.isHeld_resume hc hbefore
    | _ => cases hst

end OnCourse

/-- **A step in which nobody interferes but in a pause keeps to the course of the stepper.** -/
theorem OnCourse.step
    (h : OnCourse count stance run (steering m) (visited run m) (pauses run m) s)
    (hr : Reachable setup s) (hx : Moment.Steady next run ⟨s, l⟩) (hs : s.step setup l = some s') :
    OnCourse count stance run (steering (⟨s, l⟩ :: m)) (visited run (⟨s, l⟩ :: m))
      (pauses run (⟨s, l⟩ :: m)) s' := by
  have hlatest : s'.tasks.length + s'.owed = run + 1 := by
    rw [starts_of_step hr.orderly hs, hx.starts, h.latest]
    rfl
  rw [visited_cons, pauses_cons]
  -- the worker reports positions, the others steer; only a pause point moves the stepper on
  by_cases hl : l.worker? = some run
  · rw [steering_of_not_act (Label.not_act_of_worker hl)]
    by_cases hcall : ∃ c, l = .call run c
    · obtain ⟨c, rfl⟩ := hcall
      obtain ⟨state, hbody, rfl⟩ := System.step_call hs
      have hpaused : s.isPaused run = false := by rw [System.isPaused, System.phase?, hbody]; rfl
      rw [Moment.occasion?_call, Moment.report?, if_pos hl]
      by_cases hreports : ∃ position next, c = .pausePoint position next
      · obtain ⟨position, next, rfl⟩ := hreports
        exact h.reach hpaused hs hlatest
      · obtain ⟨hcontrol, hpaused', hoccasion, hreport⟩ :=
          @System.alike_call _ setup s run c state hbody fun position next hc =>
            hreports ⟨position, next, hc⟩
        rw [hoccasion, hreport]
        simpa using h.keep hcontrol (hpaused'.trans hpaused.symm) hlatest
    · have hc : ∀ c, l ≠ .call run c := fun c he => hcall ⟨c, he⟩
      have hpanic : ∀ payload, l ≠ .panicked run payload := by
        rintro payload rfl
        have hsmooth := hx.smooth
        simp [Moment.fails] at hsmooth
      rw [Moment.occasion?_of_not_call hc, Moment.report?_of_not_call hc]
      obtain ⟨task, q, ht⟩ := System.turned_of_step hl hs
      obtain ⟨hbefore, hafter⟩ := ht.phase?
      have hpaused : s'.isPaused run = s.isPaused run := by
        rw [System.isPaused_eq, System.isPaused_eq, hbefore, hafter, Option.any_some,
          Option.any_some, ht.turn.isHeld hc hpanic]
      simpa using h.keep (ht.turn.alike hc) hpaused hlatest
  · rw [Moment.occasion?_of_other hl, Moment.report?, if_neg hl, Option.bind_none,
      Option.toList_none, List.append_nil, List.append_nil]
    by_cases hact : ∃ t a, l = .act t a
    · obtain ⟨t, a, rfl⟩ := hact
      obtain ⟨-, rfl⟩ := System.act_of_step hs
      exact h.act hx.steers hx.starts hx.interrupts hlatest
    · have hact' : ∀ t a, l ≠ .act t a := fun t a he => hact ⟨t, a, he⟩
      obtain ⟨hcontrol, hpaused⟩ := System.kept_of_other hr.orderly h.latest hl hact' hs
      rw [steering_of_not_act hact']
      exact h.keep (hcontrol ▸ .refl _) hpaused hlatest

/-! ## From the start on -/

/-- The breakpoints of a program are inside it. -/
structure Breakpoints.Inside (b : Breakpoints) (count : ℕ) : Prop where
  size : b.lineCount = count
  inside : ∀ line ∈ b.activeLines, line.toNat < count

theorem Breakpoints.Inside.activate {b : Breakpoints} (h : b.Inside count) (lines : List UInt32) :
    (b.activate lines).Inside count where
  size := h.size
  inside line hmem := by
    have hfilter := List.mem_filter.1 (mem_ascending.1 hmem)
    rw [← h.size]
    exact of_decide_eq_true hfilter.2

theorem Turn.breakpoints {c c' : Control} {hs hs' : List UInt64} (h : Turn run l c hs q c' hs' q') :
    c'.breakpoints = c.breakpoints := by
  cases h with
  | openRead ho => rw [(Control.openRead_eq_some_iff.1 ho).2]
  | @take _ _ _ ask =>
    unfold Control.takeAnswer
    split_ifs <;> rfl
  | _ => rfl

theorem Acted.breakpoints_cases {c c' : Control} {hs hs' : List UInt64} {a : Action}
    {owed : Option Pending} (h : Acted c hs a c' hs' owed) :
    c'.breakpoints = c.breakpoints ∨ ∃ lines, c'.breakpoints = c.breakpoints.activate lines := by
  cases h with
  | start hc => exact .inl (by rw [(Control.start_eq_some_iff.1 hc).2])
  | resume hc => exact .inl (by rw [(Control.resume_eq_some_iff.1 hc).2])
  | interrupt hc => exact .inl (by rw [(Control.interrupt_eq_some_iff.1 hc).2])
  | settle _ hc => exact .inl (by rw [(Control.settle_eq_some_iff.1 hc).2])
  | activate => exact .inr ⟨_, rfl⟩
  | late | other => exact .inl rfl

theorem Reachable.breakpoints (hr : Reachable setup s) :
    s.control.breakpoints.Inside setup.info.lineCount := by
  refine hr.invariant (I := fun s => s.control.breakpoints.Inside setup.info.lineCount)
    (fun _ => ⟨rfl, by rintro _ ⟨⟩⟩) fun h hs => ?_
  cases System.stepped_of_step hs with
  | act _ ha =>
    obtain he | ⟨lines, he⟩ := ha.breakpoints_cases
    · rwa [he]
    · rw [he]
      exact h.activate lines
  | notify _ hc | submit _ hc | wake _ _ hc => rwa [hc]
  | turn _ ht => rwa [ht.turn.breakpoints]

theorem OnCourse.start {t : Thread} {args : List String} {mode : DebugMode}
    (hr : Reachable setup s) (hstarts : (Moment.mk s (.act t (.start args mode))).starts = true)
    (hs : s.step setup (.act t (.start args mode)) = some s') :
    OnCourse setup.info.lineCount ⟨mode, s.control.breakpoints.activeLines⟩ s.tasks.length
      ([], none) [] [] s' := by
  obtain ⟨c, hc⟩ := Option.isSome_iff_exists.1 hstarts
  obtain ⟨halive, rfl⟩ := Control.start_eq_some_iff.1 hc
  have howed : s.owed = 0 := by
    have hzero := hr.orderly.outstanding_eq_zero_iff.2 halive
    unfold System.outstanding at hzero
    omega
  have hlatest : s'.tasks.length + s'.owed = s.tasks.length + 1 := by
    rw [starts_of_step hr.orderly hs, hstarts, howed]
    rfl
  obtain ⟨-, rfl⟩ := System.act_of_step hs
  have hcontrol : (s.act t (.start args mode)).control =
      { s.control with interrupted := false, mode, alive := true, position := .unknown } := by
    simp [System.act, hc, System.promise]
  have hpaused : (s.act t (.start args mode)).isPaused s.tasks.length = false := by
    rw [System.isPaused_act, System.phase?, System.point?, List.getElem?_eq_none le_rfl]
    rfl
  have hinside := hr.breakpoints
  refine ⟨hlatest, by rw [hcontrol], by rw [hcontrol]; rfl, by rw [hcontrol]; exact hinside.size,
    fun line => ?_, by rw [hcontrol]; rfl, fun _ => rfl, fun hp => ?_, by rw [hpaused]; rfl,
    fun more rest => by rw [hpaused]; rfl⟩
  · rw [hcontrol, Bool.eq_iff_iff, Bool.and_eq_true, decide_eq_true_iff, decide_eq_true_iff]
    refine ⟨fun h => ?_, fun h => List.contains_iff_mem.2 h.2⟩
    have hmem : line ∈ s.control.breakpoints.activeLines := List.contains_iff_mem.1 h
    exact ⟨hinside.inside line hmem, hmem⟩
  · rw [hpaused] at hp
    cases hp

/-- **As long as nobody interferes but in a pause, a run keeps to the course of the stepper.** -/
theorem Trail.onCourse {s₀ : System κ} (hm : Trail setup s₀ m s)
    (hr : Reachable setup s₀) (h₀ : OnCourse count stance run ([], none) [] [] s₀)
    (hsteady : ∀ x ∈ m, Moment.Steady next run x) :
    OnCourse count stance run (steering m) (visited run m) (pauses run m) s := by
  induction hm with
  | nil => exact h₀
  | cons hm hs ih =>
    exact (ih fun x hx => hsteady x (List.mem_cons_of_mem _ hx)).step (hm.reachable_append hr)
      (hsteady _ List.mem_cons_self) hs

end RunControl
