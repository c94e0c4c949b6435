import RunControl.Proofs.Exchange

/-!
# Nobody waits for ever

Until the command loop is done, the worker or the loop can take a step, and there are only so many
steps to take.

* `Terminal.Underway.exists_step`: one of the two sides can go on;
* `Terminal.extends_fate`: what will have been said extends what has been said;
* **`Terminal.Trail.length_le`**: no execution is longer than `TerminalPlan.patience`.
-/

namespace RunControl

theorem System.isSome_advance {κ : Type} (setup : Setup κ) (s : System κ) (run : RunId)
    (args : List String) (elapsed : ℕ) {q : Point κ} (ho : q.isOutside = false)
    (ha : q.isAsleep = false) (hd : q ≠ .done) :
    (s.advance setup run args elapsed q).isSome = true := by
  cases q with
  | telling notice queue after =>
    cases queue with
    | nil => rfl
    | cons o queue => cases ho
  | initializing left | finalizing left outcome | ending result left =>
    cases left with
    | nil => rfl
    | cons library left => cases ho
  | holding hold | checking ask | awaiting ask =>
    simp only [advance]
    split_ifs <;> rfl
  | classifying outcome =>
    simp only [advance]
    split <;> rfl
  | done => exact absurd rfl hd
  | held hold | awaitingAsleep ask => cases ha
  | body state | asking ask provider | writing value sink next | clearing sink next
  | unwinding message => cases ho
  | _ => rfl

namespace Terminal

variable {p : TerminalPlan} {input : List ConsoleLine} {m : List Move} {t t' : Terminal}
  {h : History} {q : Point Body} {l : Label Body}

/-! ## Somebody can go on -/

theorem exists_complete {thread : Thread} (ha : t.system.aborted = false)
    (hb : t.system.isBusy thread = true) : ∃ t', t.stepSystem (.complete thread) = some t' := by
  rw [stepSystem, System.step_complete ha, System.complete]
  cases hfind : t.system.inFlight.find? fun x => x.1 = thread with
  | some x => exact ⟨_, rfl⟩
  | none =>
    obtain ⟨x, hx, hthread⟩ := List.any_eq_true.1 hb
    exact absurd hthread (List.find?_eq_none.1 hfind x hx)

theorem exists_stepLoop_of_busy (ha : t.system.aborted = false)
    (hb : t.system.isBusy loopThread = true) : ∃ t', t.stepLoop = some t' := by
  rw [stepLoop, if_pos hb]
  exact exists_complete ha hb

theorem exists_stepWorker_of_busy (ha : t.system.aborted = false)
    (hb : t.system.isBusy (.worker run) = true) (elapsed : ℕ) :
    ∃ t', t.stepWorker elapsed = some t' := by
  rw [stepWorker, if_pos hb]
  exact exists_complete ha hb

theorem At.exists_turn (ht : t.At q) (hb : t.system.isBusy (.worker run) = false)
    (hl : l.worker? = some run)
    (hturn : (t.system.turn t.plan.setup ⟨t.plan.args, q⟩ l).isSome = true) :
    ∃ t', t.stepSystem l = some t' := by
  obtain ⟨system, hsystem⟩ := Option.isSome_iff_exists.1 hturn
  exact ⟨_, by rw [ht.stepSystem_turn hb hl, hsystem]; rfl⟩

theorem At.exists_advance (ht : t.At q) (hb : t.system.isBusy (.worker run) = false)
    (ho : q.isOutside = false) (ha : q.isAsleep = false) (hd : q ≠ .done) (elapsed : ℕ) :
    ∃ t', t.stepSystem (.advance run elapsed) = some t' :=
  ht.exists_turn hb rfl (System.isSome_advance _ _ _ _ _ ho ha hd)

theorem At.exists_send {notice : Notice} {o : ObserverId} {queue : List ObserverId}
    {after : AfterNotice Body} (ht : t.At (.telling notice (o :: queue) after))
    (hb : t.system.isBusy (.worker run) = false) (elapsed : ℕ) :
    ∃ t', t.stepAt elapsed (.telling notice (o :: queue) after) = some t' := by
  have ht₁ : At { t with events := t.events ++ [notice] } (.telling notice (o :: queue) after) :=
    ⟨ht.tasks, ht.inFlight, ht.aborted⟩
  exact ht₁.exists_turn hb rfl rfl

theorem At.exists_deliver {result : RunResult} {o : ObserverId} {queue : List ObserverId}
    (ht : t.At (.ending result (o :: queue))) (hb : t.system.isBusy (.worker run) = false)
    (elapsed : ℕ) : ∃ t', t.stepAt elapsed (.ending result (o :: queue)) = some t' := by
  have ht₁ : At { t with events := t.events ++ [.ended result] } (.ending result (o :: queue)) :=
    ⟨ht.tasks, ht.inFlight, ht.aborted⟩
  exact ht₁.exists_turn hb rfl rfl

theorem At.exists_stepConsole {ask : Ask Body} {provider : ProviderId}
    (ht : t.At (.asking ask provider)) (hb : t.system.isBusy (.worker run) = false) :
    ∃ t', t.stepConsole ask = some t' := by
  have ht₁ (console : ConsolePoint) : At { t with console } (.asking ask provider) :=
    ⟨ht.tasks, ht.inFlight, ht.aborted⟩
  cases hconsole : t.console with
  | idle =>
    simp only [stepConsole, hconsole]
    exact ⟨_, rfl⟩
  | entered answer =>
    simp only [stepConsole, hconsole]
    have hmay : t.system.mayAct (.worker run) = true := by
      simp [System.mayAct, hb, ht.point?, Point.isOutside]
    exact ⟨_, stepSystem_act ht.aborted hmay⟩
  | answered =>
    simp only [stepConsole, hconsole]
    exact (ht₁ .idle).exists_turn hb rfl rfl

theorem Goes.exists_stepAt (hg : t.Goes q) (hb : t.system.isBusy (.worker run) = false)
    (ha : q.isAsleep = false) (elapsed : ℕ) : ∃ t', t.stepAt elapsed q = some t' := by
  have ht := hg.sole
  have hworks := hg.working
  have hadvance (ho : q.isOutside = false) (hd : q ≠ .done) :=
    ht.exists_advance hb ho ha hd elapsed
  cases q with
  | queued | finishing result watchers =>
    obtain ⟨t', ht'⟩ := hadvance rfl (by simp)
    exact ⟨_, by rw [stepAt, ht']; rfl⟩
  | telling notice queue after =>
    cases queue with
    | nil => exact hadvance rfl (by simp)
    | cons o queue => exact ht.exists_send hb elapsed
  | initializing left | finalizing left outcome =>
    cases left with
    | nil => exact hadvance rfl (by simp)
    | cons library left => exact hworks.elim
  | body state | unwinding message => exact ht.exists_turn hb rfl rfl
  | asking ask provider => exact ht.exists_stepConsole hb
  | writing value sink next =>
    have ht₁ : At (t.say value.display) (.writing value sink next) :=
      ⟨ht.tasks, ht.inFlight, ht.aborted⟩
    exact ht₁.exists_turn hb rfl rfl
  | clearing sink next =>
    have ht₁ : At (t.say clearScreen) (.clearing sink next) :=
      ⟨ht.tasks, ht.inFlight, ht.aborted⟩
    exact ht₁.exists_turn hb rfl rfl
  | held hold => cases ha
  | awaiting ask | awaitingAsleep ask | ending result queue | done => exact hworks.elim
  | _ => exact hadvance rfl (by simp)

theorem At.exists_stepWorker (ht : t.At q) (ha : q.isAsleep = false) {elapsed : ℕ}
    (hstep : t.system.isBusy (.worker run) = false → ∃ t', t.stepAt elapsed q = some t') :
    ∃ t', t.stepWorker elapsed = some t' := by
  by_cases hb : t.system.isBusy (.worker run) = true
  · exact exists_stepWorker_of_busy ht.aborted hb elapsed
  · rw [stepWorker, if_neg hb, ht.point?]
    obtain ⟨t', ht'⟩ := hstep (by simpa using hb)
    refine ⟨t', ?_⟩
    split
    · next hold hq => cases hq; cases ha
    · next ask hq => cases hq; cases ha
    · next q' _ _ hq =>
      obtain rfl := Option.some.inj hq
      exact ht'
    · next hq => cases hq

theorem exists_receive (ha : t.system.aborted = false) (hloop : t.loop = .receiving)
    (hevents : t.events ≠ []) : ∃ t', t.stepLoop = some t' := by
  by_cases hb : t.system.isBusy loopThread = true
  · exact exists_stepLoop_of_busy ha hb
  · obtain ⟨first, rest, hevents⟩ := List.exists_cons_of_ne_nil hevents
    rw [stepLoop, if_neg hb]
    simp only [hloop, hevents]
    exact ⟨_, rfl⟩

/-- Before the last notice has been sent, the worker can send it; after that, the loop can receive
it. -/
theorem exists_step_of_news (ht : t.At q) (hloop : t.loop = .receiving) (hnews : t.news ≠ [])
    (ha : q.undelivered ≠ [] → q.isAsleep = false ∧
      (t.system.isBusy (.worker run) = false → ∀ elapsed, ∃ t', t.stepAt elapsed q = some t'))
    (elapsed : ℕ) : ∃ side t', t.step elapsed (.go side) = some t' := by
  by_cases hevents : t.events = []
  · have hundelivered : q.undelivered ≠ [] := by
      rintro hnone
      rw [ht.news, hevents, hnone] at hnews
      exact hnews rfl
    obtain ⟨hawake, hstep⟩ := ha hundelivered
    obtain ⟨t', ht'⟩ := ht.exists_stepWorker hawake fun hb => hstep hb elapsed
    exact ⟨.worker, t', ht'⟩
  · obtain ⟨t', ht'⟩ := exists_receive ht.aborted hloop hevents
    exact ⟨.loop, t', ht'⟩

theorem Paused.exists_takeCommand {hold : Hold Body} (hp : t.Paused q hold)
    (hb : t.system.isBusy loopThread = false) : ∃ t', t.takeCommand = some t' := by
  have hact (a : Action) : ∃ t', { (t.takeLine .loop).2 with loop := .receiving }.stepSystem
      (.act loopThread a) = some t' :=
    ⟨_, stepSystem_act (by exact hp.sole.aborted) (by exact mayAct_loop hb)⟩
  have hinterrupt : ∃ t', { (t.takeLine .loop).2 with loop := .receiving }.interrupt = some t' :=
    ⟨_, interrupt_of_running (by exact hb) (by exact hp.sole.aborted) (by exact hp.isRunning)⟩
  simp only [takeCommand, takeLine]
  split
  · exact hinterrupt
  · exact ⟨_, rfl⟩
  · split
    · exact ⟨_, rfl⟩
    · split
      · exact hact _
      · exact hinterrupt

/-- While the program works, the worker goes on, or it is about to be woken. -/
theorem Goes.exists_step (hg : t.Goes q) (hr : Reachable p.setup t.system) (elapsed : ℕ) :
    ∃ side t', t.step elapsed (.go side) = some t' := by
  by_cases ha : q.isAsleep = true
  · -- the pause has been resumed, so a notification is on its way
    obtain ⟨hold, rfl⟩ : ∃ hold, q = .held hold := by
      have hworks := hg.working
      cases q with
      | held hold => exact ⟨hold, rfl⟩
      | awaitingAsleep ask => exact hworks.elim
      | _ => cases ha
    have hnotheld : t.system.control.blocks (.resumption hold) = false := hg.working.2.2
    obtain hheld | ⟨thread, hnotify⟩ := hr.guarded run (.resumption hold) hg.sole.point?
    · cases hnotheld.symm.trans hheld
    · have hbusy : t.system.isBusy thread = true :=
        List.any_eq_true.2 ⟨_, hnotify, by simp⟩
      obtain hthread | hthread := hg.sole.inFlight _ hnotify
      · obtain rfl : thread = loopThread := congrArg Prod.fst hthread
        exact ⟨.loop, exists_stepLoop_of_busy hg.sole.aborted hbusy⟩
      · obtain rfl : thread = .worker run := congrArg Prod.fst hthread
        exact ⟨.worker, exists_stepWorker_of_busy hg.sole.aborted hbusy elapsed⟩
  · replace ha : q.isAsleep = false := by simpa using ha
    exact ⟨.worker, hg.sole.exists_stepWorker ha fun hb => hg.exists_stepAt hb ha elapsed⟩

/-- While the program is paused, the loop goes on, or the worker tells it of the pause. -/
theorem Paused.exists_step {hold : Hold Body} (hp : t.Paused q hold)
    (hturn : t.loop = .receiving ∧ t.news = [.lineHighlighted hold.line] ∨
      (t.loop = .prompting ∨ ∃ message, t.loop = .failing message) ∧ t.news = []) (elapsed : ℕ) :
    ∃ side t', t.step elapsed (.go side) = some t' := by
  obtain ⟨hloop, hnews⟩ | ⟨hloop, -⟩ := hturn
  · refine exists_step_of_news hp.sole hloop (by simp [hnews]) (fun hundelivered => ?_) elapsed
    have hpauses := hp.pauses
    have hsole := hp.sole
    cases q with
    | telling notice queue after =>
      cases queue with
      | nil => exact absurd rfl hundelivered
      | cons o queue => exact ⟨rfl, fun hb elapsed => hsole.exists_send hb elapsed⟩
    | holding hold | held hold => exact absurd rfl hundelivered
    | _ => cases hpauses
  · refine ⟨.loop, ?_⟩
    by_cases hb : t.system.isBusy loopThread = true
    · exact exists_stepLoop_of_busy hp.sole.aborted hb
    · rw [step, stepLoop, if_neg hb]
      replace hb : t.system.isBusy loopThread = false := by simpa using hb
      obtain hloop | ⟨message, hloop⟩ := hloop
      · rw [hloop]
        exact hp.exists_takeCommand hb
      · simp only [hloop]
        exact ⟨_, interrupt_of_running (by exact hb) (by exact hp.sole.aborted)
          (by exact hp.isRunning)⟩

/-- **Until the loop is done, somebody can go on.** -/
theorem Underway.exists_step (hu : Underway p input m t) (elapsed : ℕ) :
    ∃ side t', t.step elapsed (.go side) = some t' := by
  cases hu.standing with
  | starting hloop _ hinFlight _ _ _ ha =>
    have hb : t.system.isBusy loopThread = false := by simp [System.isBusy, hinFlight]
    refine ⟨.loop, ?_⟩
    rw [Terminal.step, stepLoop, if_neg (by simp [hb])]
    simp only [hloop, stepSystem_act ha (mayAct_loop hb)]
    exact ⟨_, rfl⟩
  | submitted _ _ hinFlight _ _ _ ha =>
    exact ⟨.loop, exists_stepLoop_of_busy ha (by simp [System.isBusy, hinFlight])⟩
  | working hg => exact hg.exists_step hu.reachable elapsed
  | paused hp hturn => exact hp.exists_step hturn elapsed
  | @ended q result hq ho hquiet hnews halive =>
    cases hloop : t.loop with
    | receiving =>
      refine exists_step_of_news hq hloop (by simp [hnews]) (fun hundelivered => ?_) elapsed
      cases q with
      | ending result queue =>
        cases queue with
        | nil => exact absurd rfl hundelivered
        | cons o queue => exact ⟨rfl, fun hb elapsed => hq.exists_deliver hb elapsed⟩
      | done => exact absurd rfl hundelivered
      | _ => exact ho.elim
    | leaving message =>
      refine ⟨.loop, ?_⟩
      by_cases hb : t.system.isBusy loopThread = true
      · exact exists_stepLoop_of_busy hq.aborted hb
      · rw [Terminal.step, stepLoop, if_neg hb]
        simp only [hloop, halive]
        exact ⟨_, rfl⟩
    | starting | prompting | failing message | done outcome =>
      rw [hloop] at hquiet
      cases hquiet

end Terminal

/-! ## There are only so many steps -/

section Extends

variable {p : TerminalPlan}

theorem Dialogue.extends_hear (d : Dialogue) (notice : Notice) : d.Extends (d.hear p notice) := by
  cases notice with
  | lineHighlighted line => exact extends_pause d line
  | _ => exact ⟨le_rfl, le_rfl⟩

theorem Dialogue.extends_foldl_hear (notices : List Notice) (d : Dialogue) :
    d.Extends (notices.foldl (hear p) d) := by
  induction notices generalizing d with
  | nil => exact .refl d
  | cons notice notices ih => exact (d.extends_hear notice).trans (ih _)

theorem TerminalPlan.extends_begin (p : TerminalPlan) (d : Dialogue) : d.Extends (p.begin d) :=
  (Body.extends_perform _ _ _).of_eq le_rfl le_rfl

theorem Hold.extends_fate (hold : Hold Body) (d : Dialogue) : d.Extends (hold.fate p d) :=
  Body.extends_perform _ _ _

theorem Ask.extends_fate (ask : Ask Body) {d : Dialogue} {x : Dialogue × Except Fault Value}
    (h : d.Extends x.1) : d.Extends (ask.fate p x) :=
  h.trans (Body.extends_perform _ _ _)

theorem ReadExit.extends_fate (exit : ReadExit Body) (d : Dialogue) :
    d.Extends (exit.fate p d) := by
  cases exit with
  | answer state => exact Body.extends_perform _ _ _
  | unwind message => exact @Dialogue.extends_conclude p d (.error (.panic message))

theorem AfterNotice.extends_fate (after : AfterNotice Body) (d : Dialogue) :
    d.Extends (after.fate p d) := by
  cases after with
  | libraries => exact p.extends_begin d
  | highlight h => exact (Dialogue.extends_pause d h.line).trans (h.extends_fate _)
  | hold h => exact h.extends_fate d
  | proceed state => exact Body.extends_perform _ _ _
  | awaitAnswer ask => exact ask.extends_fate (Dialogue.extends_leave _ _)
  | leaveRead exit => exact exit.extends_fate d

theorem Point.extends_fate (q : Point Body) (console : ConsolePoint) (d : Dialogue) :
    d.Extends (q.fate p console d) := by
  cases q with
  | queued | initializing left => exact p.extends_begin d
  | announcing notice after => exact (d.extends_hear notice).trans (after.extends_fate _)
  | telling notice queue after => exact after.extends_fate d
  | body state => exact Body.extends_perform _ _ _
  | holding hold | held hold => exact hold.extends_fate d
  | requesting ask => exact ask.extends_fate (Dialogue.extends_enter _ _ _)
  | asking ask provider =>
    refine ask.extends_fate ?_
    cases console with
    | idle => exact Dialogue.extends_enter _ _ _
    | entered answer => exact Dialogue.extends_answer _ _ _ _
    | answered => exact Dialogue.extends_leave _ _
  | checking ask | awaiting ask | awaitingAsleep ask =>
    exact ask.extends_fate (Dialogue.extends_leave _ _)
  | closingRead exit => exact (exit.extends_fate _).of_eq le_rfl le_rfl
  | writing value sink next | clearing sink next =>
    exact (Body.extends_perform _ _ _).of_eq le_rfl le_rfl
  | unwinding message => exact @Dialogue.extends_conclude p d (.error (.panic message))
  | finalizing left outcome | classifying outcome => exact Dialogue.extends_conclude _ _
  | recovering message => exact ⟨le_rfl, le_rfl⟩
  | draining result | finishing result watchers => exact ⟨le_rfl, le_rfl⟩
  | ending result queue | done => exact .refl d

end Extends

/-- More steps than this there are not, as long as the worker does not wake up for no reason. -/
def TerminalPlan.patience (p : TerminalPlan) (input : List ConsoleLine) : ℕ :=
  121 + 100 * (p.dialogue input).calls + 8 * (p.dialogue input).readers.length

namespace Terminal

variable {p : TerminalPlan} {input : List ConsoleLine} {m : List Move} {t : Terminal} {h : History}

theorem extends_settled : (t.dialogue h).Extends (t.settled h) := by
  rw [settled]
  refine Dialogue.Extends.trans ?_ (Dialogue.extends_foldl_hear _ _)
  cases t.loop with
  | prompting => exact Dialogue.extends_command _ _
  | _ => exact ⟨le_rfl, le_rfl⟩

/-- What will have been said extends what has been said. -/
theorem extends_fate : (t.dialogue h).Extends (t.fate h) := by
  rw [fate]
  cases t.system.point? run with
  | some q => exact extends_settled.trans (q.extends_fate _ _)
  | none => exact extends_settled.trans (t.plan.extends_begin _)

theorem Underway.length_lt (hu : Underway p input m t) :
    m.length < p.patience input + 2 * wakes m := by
  have hextends := @extends_fate t (History.of m)
  rw [hu.fate] at hextends
  have hcalls : (History.of m).calls ≤ (p.dialogue input).calls := hextends.calls
  have hreaders : t.readers.length ≤ (p.dialogue input).readers.length := hextends.readers
  have hpace := hu.pace
  rw [TerminalPlan.patience]
  omega

/-- **There are only so many steps, however the two sides take turns**, but for a worker that wakes
for no reason and falls asleep again. -/
theorem Trail.length_le (ht : Trail p input m t) : m.length ≤ p.patience input + 2 * wakes m := by
  obtain hu | ⟨m₀, t₀, rfl, hu, -⟩ := ht.cases
  · exact hu.length_lt.le
  · rw [wakes_go]
    exact hu.length_lt

end Terminal

end RunControl
