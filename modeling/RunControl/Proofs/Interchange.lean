import RunControl.Proofs.Attendance

/-!
# Step-into and step-over

Both modes stop everywhere, and nothing else looks at the difference. Executions that differ only in
which of the two is chosen where go through the same states, but for the mode.

* `DebugMode.flat`, `Control.flat`, `System.flat`, `Label.flat`: step-over for step-into;
* **`System.step_flat`**: a system takes the same steps with step-over for step-into;
* **`System.steps_eq_of_flat`**, **`System.moments_eq_of_flat`**: executions that differ in nothing
  else.
-/

namespace RunControl

variable {κ : Type}

/-- Step-over for step-into. -/
def DebugMode.flat : DebugMode → DebugMode
  | stepInto => stepOver
  | mode => mode

/-- The control state with step-over for step-into. -/
def Control.flat (c : Control) : Control := { c with mode := c.mode.flat }

/-- The call with step-over for step-into. -/
def Action.flat : Action → Action
  | start args mode => start args mode.flat
  | resume mode => resume mode.flat
  | a => a

/-- The step with step-over for step-into. -/
def Label.flat : Label κ → Label κ
  | act t a => act t a.flat
  | l => l

/-- The system with step-over for step-into. -/
def System.flat (s : System κ) : System κ := { s with control := s.control.flat }

/-- The moment with step-over for step-into. -/
def Moment.flat (x : Moment κ) : Moment κ := ⟨x.state.flat, x.label.flat⟩

/-! ## Critical sections -/

namespace Control

variable (c : Control)

theorem canPause_flat (line : UInt32) : c.flat.canPause line = c.canPause line := by
  unfold canPause flat
  cases c.mode <;> rfl

theorem start_flat (mode : DebugMode) : c.flat.start mode.flat = (c.start mode).map flat := by
  unfold start
  cases h : c.alive <;> simp [flat, h]

theorem resume_flat (mode : DebugMode) : c.flat.resume mode.flat = (c.resume mode).map flat := by
  have hrunning : c.flat.isRunning = c.isRunning := rfl
  unfold resume
  rw [hrunning]
  cases c.isRunning <;> rfl

theorem interrupt_flat : c.flat.interrupt = c.interrupt.map flat := by
  unfold interrupt
  cases h : c.alive <;> cases h' : c.interrupted <;> simp [flat, h, h']

theorem settle_flat (ticket : UInt64) (answer : Option Value) :
    c.flat.settle ticket answer = (c.settle ticket answer).map flat := by
  have hread : c.flat.read = c.read := rfl
  unfold settle
  rw [hread]
  split_ifs <;> rfl

theorem openRead_flat : c.flat.openRead = c.openRead.map flat := by
  unfold openRead
  cases h : c.interrupted <;> simp [flat, h]

theorem reach_flat (position : Position) :
    c.flat.reach position = ((c.reach position).1.flat, (c.reach position).2) := by
  unfold reach
  rw [canPause_flat]
  rfl

theorem takeAnswer_flat (type : DataType) :
    c.flat.takeAnswer type = ((c.takeAnswer type).1.flat, (c.takeAnswer type).2) := by
  have hread : c.flat.read = c.read := rfl
  unfold takeAnswer
  rw [hread, show c.flat.interrupted = c.interrupted from rfl]
  split_ifs <;> rfl

end Control

namespace System

variable {setup : Setup κ} {s : System κ} {run : RunId} {l : Label κ}

/-! ## Calls and turns -/

theorem act_flat (t : Thread) (a : Action) : s.flat.act t a.flat = (s.act t a).flat := by
  have hcontrol : s.flat.control = s.control.flat := rfl
  cases a with
  | start args mode =>
    simp only [act, Action.flat]
    rw [hcontrol, Control.start_flat]
    cases s.control.start mode <;> rfl
  | resume mode =>
    simp only [act, Action.flat]
    rw [hcontrol, Control.resume_flat]
    cases s.control.resume mode <;> rfl
  | interrupt =>
    simp only [act, Action.flat]
    rw [hcontrol, Control.interrupt_flat]
    cases s.control.interrupt <;> rfl
  | settle ticket answer =>
    simp only [act, Action.flat]
    rw [hcontrol, Control.settle_flat, show s.flat.handles = s.handles from rfl]
    split_ifs
    · cases s.control.settle ticket answer <;> rfl
    · rfl
  | _ => rfl

theorem takeAnswer_flat (ask : Ask κ) :
    s.flat.takeAnswer run ask = (s.takeAnswer run ask).flat := by
  unfold takeAnswer
  rw [show s.flat.control = s.control.flat from rfl, Control.takeAnswer_flat]
  rfl

theorem advance_flat {args : List String} {elapsed : ℕ} (q : Point κ) :
    s.flat.advance setup run args elapsed q = (s.advance setup run args elapsed q).map flat := by
  cases q with
  | telling notice queue after => cases queue <;> rfl
  | initializing left | finalizing left outcome | ending result left => cases left <;> rfl
  | holding hold =>
    simp only [advance, show s.flat.control.isHeld = s.control.isHeld from rfl,
      show s.flat.control.interrupted = s.control.interrupted from rfl]
    cases s.control.isHeld hold.generation <;> rfl
  | checking ask | awaiting ask =>
    simp only [advance, takeAnswer_flat,
      show s.flat.control.awaitsAnswer = s.control.awaitsAnswer from rfl]
    split_ifs <;> rfl
  | classifying outcome =>
    simp only [advance, show s.flat.control.position = s.control.position from rfl]
    split <;> rfl
  | _ => rfl

theorem call_flat (c : Call κ) : s.flat.call setup run c = (s.call setup run c).flat := by
  have hcontrol : s.flat.control = s.control.flat := rfl
  cases c with
  | pausePoint position next =>
    simp only [call]
    rw [hcontrol, Control.reach_flat]
    rfl
  | read type next =>
    simp only [call]
    rw [hcontrol, Control.openRead_flat]
    cases s.control.openRead <;> rfl
  | _ => rfl

theorem turn_flat {task : Task κ} :
    s.flat.turn setup task l.flat = (s.turn setup task l).map flat := by
  obtain ⟨args, q⟩ := task
  cases l with
  | advance run elapsed => exact advance_flat q
  | call run c =>
    cases q with
    | body state => exact congrArg some (call_flat c)
    | _ => rfl
  | panicked run payload =>
    cases q with
    | telling notice queue after =>
      cases queue with
      | nil => rfl
      | cons o queue =>
        cases after with
        | leaveRead exit => cases exit <;> rfl
        | _ => rfl
    | initializing left | finalizing left outcome | ending result left => cases left <;> rfl
    | _ => rfl
  | returned run =>
    cases q with
    | telling notice queue after => cases queue <;> rfl
    | initializing left | finalizing left outcome | ending result left => cases left <;> rfl
    | _ => rfl
  | libraryFailed run error =>
    cases q with
    | initializing left | finalizing left outcome => cases left <;> rfl
    | _ => rfl
  | sinkFailed run error => cases q <;> rfl
  | caught run state => cases q <;> rfl
  | _ => rfl

/-! ## Steps -/

/-- **A system takes the same steps with step-over for step-into.** -/
theorem step_flat (s : System κ) (l : Label κ) :
    s.flat.step setup l.flat = (s.step setup l).map flat := by
  refine step_eq_map rfl fun ha ha' => ?_
  cases hw : l.worker? with
  | some run =>
    have hw' : l.flat.worker? = some run := by rw [← hw]; cases l <;> rfl
    rw [step_turn hw ha, step_turn hw' ha', show s.flat.freeTask? run = s.freeTask? run from rfl,
      Option.map_bind]
    exact Option.bind_congr fun task _ => turn_flat
  | none =>
    cases l with
    | act t a =>
      rw [step_act ha, Label.flat, step_act ha', act_flat,
        show s.flat.mayAct t = s.mayAct t from rfl]
      split_ifs <;> rfl
    | complete t =>
      rw [step_complete ha, show (Label.complete t).flat = .complete t from rfl, step_complete ha',
        complete, complete, Option.map_map]
      refine Option.map_congr fun p _ => ?_
      obtain ⟨u, owed⟩ := p
      cases owed <;> rfl
    | wake run =>
      rw [step_wakeUp ha, show (Label.wake run).flat = .wake run from rfl, step_wakeUp ha',
        Option.map_bind]
      refine Option.bind_congr fun task _ => ?_
      dsimp only [Function.comp_apply]
      split_ifs <;> rfl
    | _ => cases hw

theorem steps_flat (s : System κ) (labels : List (Label κ)) :
    s.flat.steps setup (labels.map Label.flat) = (s.steps setup labels).map flat := by
  induction labels generalizing s with
  | nil => rfl
  | cons l labels ih =>
    rw [List.map_cons, steps, step_flat, steps, Option.bind_map, Option.map_bind]
    exact Option.bind_congr fun s₁ _ => ih s₁

theorem moments_flat (s : System κ) (labels : List (Label κ)) :
    s.flat.moments setup (labels.map Label.flat) = (s.moments setup labels).map Moment.flat := by
  induction labels generalizing s with
  | nil => rfl
  | cons l labels ih =>
    rw [List.map_cons, moments, step_flat, moments]
    cases s.step setup l with
    | none => rfl
    | some s₁ =>
      rw [Option.map_some, List.map_append, ← ih s₁]
      rfl

variable {labels labels' : List (Label κ)}

/-- **Executions that differ only in where they choose step-into or step-over lead to the same
states, but for the mode.** -/
theorem steps_eq_of_flat (h : labels.map Label.flat = labels'.map Label.flat) :
    (s.steps setup labels).map flat = (s.steps setup labels').map flat := by
  rw [← steps_flat, ← steps_flat, h]

/-- **They do so moment by moment.** -/
theorem moments_eq_of_flat (h : labels.map Label.flat = labels'.map Label.flat) :
    (s.moments setup labels).map Moment.flat = (s.moments setup labels').map Moment.flat := by
  rw [← moments_flat, ← moments_flat, h]

end System

/-! ## What is heard -/

variable {run : RunId} {o : ObserverId} {p p' : List (Moment κ)}

theorem Moment.at?_flat {α : Type} (f : Point κ → Option α) (x : Moment κ) :
    x.flat.at? run f = x.at? run f := by
  have hw : x.flat.label.worker? = x.label.worker? := by
    unfold flat
    cases x.label <;> rfl
  unfold at?
  rw [hw]
  rfl

theorem filterMap_at?_flat {α : Type} (f : Point κ → Option α) (p : List (Moment κ)) :
    (p.map Moment.flat).filterMap (Moment.at? run f) = p.filterMap (Moment.at? run f) := by
  rw [List.filterMap_map]
  exact congrArg (p.filterMap ·) (funext (Moment.at?_flat f))

theorem heard_eq_of_flat (h : p.map Moment.flat = p'.map Moment.flat) :
    announced run p = announced run p' ∧ heard run o p = heard run o p' := by
  unfold announced heard
  rw [← filterMap_at?_flat, h, filterMap_at?_flat, ← filterMap_at?_flat (Point.tells? o), h,
    filterMap_at?_flat]
  exact ⟨rfl, rfl⟩

end RunControl
